import ApiScaffold.Text.Case

/-!
Numbers in decimal. A number is told by its digits, so distinct numbers are written differently.
-/

namespace ApiScaffold

namespace Identifier

/-- The digits of a number. -/
theorem number_digits {number : Nat} {c : Char} (member : c ∈ (toString number).toList) :
    Text.isAsciiDigit c = true := by
  have listed : c ∈ Nat.toDigits 10 number := by simpa using member
  have digit := Nat.isDigit_of_mem_toDigits (by decide) (by decide) listed
  simp only [Char.isDigit, Text.isAsciiDigit] at *
  exact digit

end Identifier

theorem nat_repr_injective {first second : Nat} (same : first.repr = second.repr) :
    first = second := by
  have digits : Nat.toDigits 10 first = Nat.toDigits 10 second := by
    simpa only [Nat.toList_repr] using congrArg String.toList same
  calc
    first = Nat.ofDigitChars 10 (Nat.toDigits 10 first) 0 := Nat.ofDigitChars_ten_toDigits.symm
    _ = Nat.ofDigitChars 10 (Nat.toDigits 10 second) 0 := by rw [digits]
    _ = second := Nat.ofDigitChars_ten_toDigits

theorem int_repr_injective {first second : Int} (same : toString first = toString second) :
    first = second := by
  simp only [Int.toString_eq_repr, Int.repr_eq_if] at same
  have apart (natural negated : Nat) : natural.repr ≠ "-" ++ negated.repr := by
    intro equal
    have sign : '-' ∈ (toString natural).toList := by
      rw [Nat.toString_eq_repr, equal, String.toList_append]
      exact List.mem_append_left _ (by decide)
    exact absurd (Identifier.number_digits sign) (by decide)
  split at same <;> split at same
  · have := nat_repr_injective same
    omega
  · exact absurd same (apart _ _)
  · exact absurd same.symm (apart _ _)
  · have := nat_repr_injective ((String.append_right_inj _).mp same)
    omega

end ApiScaffold
