import ApiScaffold.Proofs.AcceptedValues
import ApiScaffold.Proofs.ShortDocuments
import Mathlib.Data.Rat.Floor

/-!
Bounds of integers. A bound between two integers gives way to the inner one, which is admitted, and
a whole bound stays what it is; so every integer is judged as before. Only beyond the integers of 64
bits the nearest of them is written instead. That is right for a bound that all integers meet or
that all miss, if the integer at the end is treated like the others; else that one integer is judged
wrongly.
-/

namespace ApiScaffold

namespace Binary64

variable (number : Binary64)

theorem ratio_positive : 0 < number.ratio.2 := by
  unfold ratio
  split
  · exact Nat.pow_pos (by decide)
  · exact Nat.one_pos

def numerator : Int := if number.negative then -number.ratio.1 else number.ratio.1

theorem to_rat_eq : number.toRat = (number.numerator : ℚ) / (number.ratio.2 : ℕ) := by
  unfold toRat numerator
  cases number.negative <;> simp [neg_div]

theorem is_integral_iff : number.isIntegral = true ↔ ∃ whole : Int, number.toRat = whole := by
  have divides : number.isIntegral = true ↔ (number.ratio.2 : Int) ∣ number.numerator := by
    have sign : (number.ratio.2 : Int) ∣ number.numerator ↔
        (number.ratio.2 : Int) ∣ (number.ratio.1 : Int) := by
      unfold numerator
      split
      · exact Int.dvd_neg
      · exact Iff.rfl
    rw [sign, Int.natCast_dvd_natCast, isIntegral, beq_iff_eq, Nat.dvd_iff_mod_eq_zero]
  have denominator : (number.ratio.2 : ℚ) ≠ 0 := Nat.cast_ne_zero.mpr number.ratio_positive.ne'
  rw [divides, to_rat_eq]
  constructor
  · rintro ⟨whole, multiple⟩
    refine ⟨whole, ?_⟩
    rw [multiple, Int.cast_mul, Int.cast_natCast, mul_div_cancel_left₀ _ denominator]
  · rintro ⟨whole, same⟩
    refine ⟨whole, ?_⟩
    rw [div_eq_iff denominator, mul_comm] at same
    exact_mod_cast same

theorem floor_eq : number.floor = ⌊number.toRat⌋ := by
  rw [to_rat_eq, Rat.floor_intCast_div_natCast]
  unfold floor numerator isIntegral
  cases number.negative with
  | false => simp
  | true =>
      simp only [if_true, beq_iff_eq, Int.neg_ediv, Int.natCast_dvd_natCast,
        Nat.dvd_iff_mod_eq_zero, Int.sign_eq_one_of_pos (Int.natCast_pos.mpr number.ratio_positive)]
      split <;> simp

theorem to_rat_negate : number.negate.toRat = -number.toRat := by
  have same : number.negate.ratio = number.ratio := rfl
  unfold toRat
  rw [same, negate]
  cases number.negative <;> simp

theorem ceil_eq : number.ceil = ⌈number.toRat⌉ := by
  rw [ceil, floor_eq, to_rat_negate, Int.floor_neg, neg_neg]

end Binary64

namespace Blueprint

/-- A limit from below or from above admits an amount; an exclusive one does not admit itself. -/
def Admitted {α : Type} [LT α] [LE α] (lower exclusive : Bool) (limit amount : α) : Prop :=
  match lower, exclusive with
  | true, true => limit < amount
  | true, false => limit ≤ amount
  | false, true => amount < limit
  | false, false => amount ≤ limit

theorem Bound.is_below_iff (bound : Bound) (amount : ℚ) :
    bound.IsBelow amount ↔ Admitted true bound.exclusive bound.value.toRat amount := by
  unfold IsBelow Admitted
  cases bound.exclusive <;> rfl

theorem Bound.is_above_iff (bound : Bound) (amount : ℚ) :
    bound.IsAbove amount ↔ Admitted false bound.exclusive bound.value.toRat amount := by
  unfold IsAbove Admitted
  cases bound.exclusive <;> rfl

end Blueprint

namespace Server

open Blueprint

def IsInt64 (number : Int) : Prop := leastInt64 ≤ number ∧ number ≤ greatestInt64

instance (number : Int) : Decidable (IsInt64 number) := inferInstanceAs <| Decidable (_ ∧ _)

theorem clamp_is_int64 (number : Int) : IsInt64 (clampInt64 number) := by
  unfold IsInt64 clampInt64 leastInt64 greatestInt64
  omega

/-- The limit lies beyond all integers of 64 bits, on a side where its exclusiveness would be the
wrong one for the last of them. -/
def Overruns (lower exclusive : Bool) (limit : ℚ) : Prop :=
  (exclusive ≠ lower ∧ (greatestInt64 : ℚ) < limit) ∨ (exclusive = lower ∧ limit < (leastInt64 : ℚ))

section Limits

variable {lower exclusive : Bool}

/-- Integers are judged alike before and after a limit is moved into their range, unless it
overruns them. -/
theorem clamped_exact_iff (whole : Int) :
    (∀ number, IsInt64 number →
      (Admitted lower exclusive (clampInt64 whole) number ↔ Admitted lower exclusive whole number)) ↔
      ¬ Overruns lower exclusive (whole : ℚ) := by
  unfold Overruns
  simp only [Int.cast_lt]
  constructor
  · intro alike overruns
    have greatest := alike greatestInt64 (by decide)
    have least := alike leastInt64 (by decide)
    unfold clampInt64 leastInt64 greatestInt64 at *
    cases lower <;> cases exclusive <;> simp only [Admitted] at greatest least <;>
      simp at overruns <;> omega
  · intro within number inside
    unfold IsInt64 at inside
    unfold clampInt64 leastInt64 greatestInt64 at *
    cases lower <;> cases exclusive <;> simp only [Admitted] <;> simp at within <;> omega

/-- The inner neighbour of a limit between two integers, which is admitted itself. -/
def innerInteger (lower : Bool) (limit : ℚ) : Int := if lower then ⌈limit⌉ else ⌊limit⌋

theorem inner_integer_exact {limit : ℚ} (between : ¬ ∃ whole : Int, limit = whole) (number : Int) :
    Admitted lower false (innerInteger lower limit) number ↔
      Admitted lower exclusive limit (number : ℚ) := by
  have apart : limit ≠ number := fun same => between ⟨number, same⟩
  unfold Admitted innerInteger
  cases lower <;> cases exclusive <;>
    simp [Int.ceil_le, Int.le_floor, lt_iff_le_and_ne, apart, apart.symm]

theorem inner_integer_overruns_iff {limit : ℚ} :
    Overruns lower false (innerInteger lower limit : ℚ) ↔ Overruns lower false limit := by
  unfold Overruns innerInteger
  cases lower <;> simp [Int.lt_ceil, Int.floor_lt]

end Limits

theorem integer_bound_eq (bound : Bound) (lower : Bool) :
    integerBound bound lower =
      if bound.value.isIntegral then (clampInt64 ⌊bound.value.toRat⌋, bound.exclusive)
      else (clampInt64 (innerInteger lower bound.value.toRat), false) := by
  unfold integerBound innerInteger
  rw [bound.value.floor_eq, bound.value.ceil_eq]
  cases lower <;> rfl

/-- The literal of an integer bound is an integer of 64 bits, and all such integers are judged by it
as by the bound itself, unless the bound overruns them. -/
theorem integer_literal_exact_iff (bound : Bound) (lower : Bool) :
    ∃ literal exclusive, boundLiteral bound true lower = (toString literal, exclusive) ∧
      IsInt64 literal ∧
      ((∀ number, IsInt64 number →
        (Admitted lower exclusive literal number ↔
          Admitted lower bound.exclusive bound.value.toRat (number : ℚ))) ↔
        ¬ Overruns lower (bound.value.isIntegral && bound.exclusive) bound.value.toRat) := by
  refine ⟨(integerBound bound lower).1, (integerBound bound lower).2, rfl, ?_⟩
  rw [integer_bound_eq]
  by_cases integral : bound.value.isIntegral = true
  · obtain ⟨whole, same⟩ := bound.value.is_integral_iff.mp integral
    rw [if_pos integral, integral, Bool.true_and, same, Int.floor_intCast, ← clamped_exact_iff]
    refine ⟨clamp_is_int64 whole, forall₂_congr fun number _ => ?_⟩
    have exact : Admitted lower bound.exclusive (whole : ℚ) (number : ℚ) ↔
        Admitted lower bound.exclusive whole number := by
      unfold Admitted
      split <;> simp
    rw [exact]
  · have between := mt bound.value.is_integral_iff.mpr integral
    rw [if_neg integral, Bool.eq_false_iff.mpr integral, Bool.false_and,
      ← inner_integer_overruns_iff, ← clamped_exact_iff]
    refine ⟨clamp_is_int64 _, forall₂_congr fun number _ => ?_⟩
    rw [inner_integer_exact between]

def ledger : OpenApi.Document where
  specification := {
    openapi := "3.0.0"
    components := { schemas := [("ledger", .object {
      type := some (.single "object")
      properties := [("entry", .object {
        type := some (.single "integer")
        minimum := some (Binary64.ofInt 9223372036854775808) })] })] } }
  raw := .null

theorem ledger_misjudges_entry :
    ∃ program field bound literal exclusive,
      (compile ledger { package := "api", path := "" }).1 = .ok program ∧
      program.field? "Ledger" "entry" = some field ∧ field.constraints.minimum = some bound ∧
      (Outline.ofProgram program).rules field = [.atLeast (toString literal) exclusive] ∧
      ∃ number : Int, IsInt64 number ∧
        ¬ (Admitted true exclusive literal number ↔ bound.IsBelow number) := by
  have holds : (compileShort ledger { package := "api", path := "" }).any fun program =>
      (program.field? "Ledger" "entry").any fun field =>
        !field.skipValidation && (program.resolve field.shape).kind? == some .int &&
          field.constraints == { minimum := some ⟨Binary64.ofInt 9223372036854775808, false⟩ } := by
    decide +kernel
  obtain ⟨program, result, known⟩ := compiled_of_short holds
  simp only [Option.any_eq_true, Bool.and_eq_true, Bool.not_eq_true', beq_iff_eq] at known
  obtain ⟨field, found, ⟨checked, kind⟩, limits⟩ := known
  let bound : Bound := ⟨Binary64.ofInt 9223372036854775808, false⟩
  obtain ⟨literal, exclusive, written, _, exact⟩ := integer_literal_exact_iff bound true
  have overruns : Overruns true (bound.value.isIntegral && bound.exclusive) bound.value.toRat :=
    .inl ⟨by decide +kernel, by decide +kernel⟩
  obtain ⟨number, misjudged⟩ := not_forall.mp (exact.not.mpr (not_not_intro overruns))
  obtain ⟨inside, differs⟩ := Classical.not_imp.mp misjudged
  refine ⟨program, field, bound, literal, exclusive, result, found, ?_, ?_, number, inside, ?_⟩
  · rw [limits]
  · obtain ⟨primitive, resolved, integer⟩ := kind_eq_some kind
    have resolves : (Outline.ofProgram program).resolve field.shape = .primitive primitive := by
      rw [Outline.resolve, outline_program, resolved]
    rw [Outline.rules, resolves, rules_of_number checked (by rw [integer]; rfl), integer]
    unfold numberRules
    rw [limits]
    simp [written, bound]
  · rwa [Bound.is_below_iff]

end Server

end ApiScaffold
