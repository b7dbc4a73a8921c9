import ApiScaffold.Blueprint.Status
import ApiScaffold.Proofs.Numerals
import Mathlib.Data.List.Induction

/-!
The keys of responses. Every key of the grammar is read, and its label is the key itself up to the
case of letters. Codes are also read with a plus sign and with zeros before them; those keys are the
only ones outside of the grammar, and the only ones that the label does not give back.
-/

namespace ApiScaffold

namespace Text

theorem ascii_digit_iff {c : Char} : isAsciiDigit c = true ↔ 48 ≤ c.toNat ∧ c.toNat ≤ 57 := by
  simp only [isAsciiDigit, Bool.and_eq_true, decide_eq_true_eq, Char.le_def, UInt32.le_iff_toNat_le]
  exact Iff.rfl

theorem ascii_digit_cases {c : Char} (digit : isAsciiDigit c = true) :
    ∃ number < 10, c = Nat.digitChar number := by
  obtain ⟨low, high⟩ := ascii_digit_iff.mp digit
  have codes : ∀ number < 10, Nat.digitChar number = Char.ofNat (48 + number) := by decide
  refine ⟨c.toNat - 48, by omega, ?_⟩
  rw [codes _ (by omega), Nat.add_sub_cancel' low, Char.ofNat_toNat]

end Text

/-- Digits are those of their number behind some zeros; of zero only zeros are left. -/
theorem digits_behind_zeros {digits : List Char}
    (numeric : ∀ c ∈ digits, Text.isAsciiDigit c = true) :
    ∃ zeros, digits = List.replicate zeros '0' ++
      if Nat.ofDigitChars 10 digits 0 = 0 then []
      else Nat.toDigits 10 (Nat.ofDigitChars 10 digits 0) := by
  induction digits using List.reverseRecOn with
  | nil => exact ⟨0, rfl⟩
  | append_singleton digits last induction =>
      obtain ⟨others, own⟩ := List.forall_mem_append.mp numeric
      obtain ⟨zeros, same⟩ := induction others
      obtain ⟨digit, small, rfl⟩ := Text.ascii_digit_cases (own last List.mem_cons_self)
      rw [Nat.ofDigitChars_append, Nat.ofDigitChars_cons_digitChar_of_lt_ten small,
        Nat.ofDigitChars_nil]
      generalize Nat.ofDigitChars 10 digits 0 = value at same ⊢
      by_cases zero : value = 0
      · rw [if_pos zero, List.append_nil] at same
        subst zero same
        rw [Nat.mul_zero, Nat.zero_add]
        by_cases last : digit = 0
        · subst last
          exact ⟨zeros + 1, by rw [if_pos rfl, List.append_nil, List.replicate_succ']; rfl⟩
        · exact ⟨zeros, by rw [if_neg last, Nat.toDigits_of_lt_base small]⟩
      · rw [if_neg zero] at same
        have longer : Nat.toDigits 10 (10 * value + digit) =
            Nat.toDigits 10 value ++ [Nat.digitChar digit] := by
          rw [← Nat.toDigits_append_toDigits (by decide) (by omega) small,
            Nat.toDigits_of_lt_base small]
        rw [if_neg (by omega), longer, same]
        exact ⟨zeros, List.append_assoc _ _ _⟩

namespace Blueprint.Status

structure IsCode (value : Nat) (digits : List Char) : Prop where
  three : digits.length = 3
  numeric : ∀ c ∈ digits, Text.isAsciiDigit c = true
  formed : Nat.ofDigitChars 10 digits 0 = value
  low : 100 ≤ value
  high : value ≤ 599

inductive Spells : Status → List Char → Prop where
  | default : Spells .default "default".toList
  | code {value : Nat} {digits : List Char} (is : IsCode value digits) :
    Spells (.code value) digits
  | range {digit first second : Char} (low : '1' ≤ digit) (high : digit ≤ '5')
    (crossed : isCross first = true) (again : isCross second = true) :
    Spells (.range (digit.toNat - 0x30)) [digit, first, second]

/-- Codes behind a plus sign, behind zeros, or behind both. -/
inductive Pads : Status → List Char → Prop where
  | code {value zeros : Nat} {sign digits : List Char} (is : IsCode value digits)
    (signed : sign = [] ∨ sign = ['+']) (padded : sign ≠ [] ∨ 0 < zeros) :
    Pads (.code value) (sign ++ (List.replicate zeros '0' ++ digits))

theorem three_digits {value : Nat} (low : 100 ≤ value) (high : value ≤ 599) :
    (Nat.toDigits 10 value).length = 3 := by
  have most := (@Nat.length_toDigits_le_iff 10 value 3 (by decide) (by decide)).mpr (by omega)
  have least := mt (@Nat.length_toDigits_le_iff 10 value 2 (by decide) (by decide)).mp (by omega)
  omega

theorem is_code_digits {value : Nat} (low : 100 ≤ value) (high : value ≤ 599) :
    IsCode value (Nat.toDigits 10 value) where
  three := three_digits low high
  numeric c member := by
    rw [← Nat.toList_repr, ← Nat.toString_eq_repr] at member
    exact Identifier.number_digits member
  formed := Nat.ofDigitChars_ten_toDigits
  low := low
  high := high

/-- Three digits leave no room for zeros in front. -/
theorem IsCode.digits_eq {value : Nat} {digits : List Char} (is : IsCode value digits) :
    digits = Nat.toDigits 10 value := by
  obtain ⟨zeros, same⟩ := digits_behind_zeros is.numeric
  have low := is.low
  rw [is.formed, if_neg (by omega)] at same
  have long := congrArg List.length same
  rw [is.three, List.length_append, List.length_replicate, three_digits low is.high] at long
  have none : zeros = 0 := by omega
  subst none
  exact same

def unsigned : List Char → List Char
  | '+' :: rest => rest
  | rest => rest

theorem signed_unsigned (chars : List Char) :
    ∃ sign, (sign = [] ∨ sign = ['+']) ∧ chars = sign ++ unsigned chars := by
  unfold unsigned
  split
  · exact ⟨['+'], .inr rfl, rfl⟩
  · exact ⟨[], .inl rfl, rfl⟩

theorem unsigned_append {sign digits : List Char} (signed : sign = [] ∨ sign = ['+'])
    (numeric : ∀ c ∈ digits, Text.isAsciiDigit c = true) :
    unsigned (sign ++ digits) = digits := by
  obtain rfl | rfl := signed
  · rw [List.nil_append, unsigned]
    -- a plus sign is no digit, so that nothing is taken off
    rintro rest rfl
    exact absurd (numeric '+' List.mem_cons_self) (by decide)
  · rfl

theorem number_unsigned (chars : List Char) :
    number? chars =
      if (unsigned chars).isEmpty || !(unsigned chars).all Text.isAsciiDigit then none
      else if Nat.ofDigitChars 10 (unsigned chars) 0 < 65536 then
        some (Nat.ofDigitChars 10 (unsigned chars) 0)
      else none := by
  simp only [Nat.ofDigitChars_eq_foldl, Nat.mul_comm 10]
  rfl

/-- A number is read from digits, before which a plus sign may stand. -/
theorem number_eq_some_iff {chars : List Char} {value : Nat} :
    number? chars = some value ↔ ∃ sign digits, chars = sign ++ digits ∧
      (sign = [] ∨ sign = ['+']) ∧ digits ≠ [] ∧ (∀ c ∈ digits, Text.isAsciiDigit c = true) ∧
      Nat.ofDigitChars 10 digits 0 = value ∧ value < 65536 := by
  rw [number_unsigned]
  constructor
  · intro read
    obtain ⟨sign, signed, same⟩ := signed_unsigned chars
    refine ⟨sign, unsigned chars, same, signed, ?_⟩
    split at read
    · cases read
    · rename_i proper
      simp only [Bool.or_eq_true, List.isEmpty_iff, Bool.not_eq_true', not_or,
        Bool.not_eq_false, List.all_eq_true] at proper
      split at read
      · cases read
        exact ⟨proper.1, proper.2, rfl, ‹_›⟩
      · cases read
  · rintro ⟨sign, digits, rfl, signed, some, numeric, rfl, small⟩
    have proper : (digits.isEmpty || !digits.all Text.isAsciiDigit) = false := by
      rw [List.all_eq_true.mpr numeric, List.isEmpty_eq_false_iff.mpr some]
      rfl
    rw [unsigned_append signed numeric, proper, if_neg Bool.false_ne_true, if_pos small]

/-- The digits of a code, behind any zeros, are numbers of the codes and nothing else. -/
theorem number_is_code_iff {chars : List Char} {value : Nat} :
    (number? chars = some value ∧ 100 ≤ value ∧ value < 600) ↔
      ∃ sign zeros digits, chars = sign ++ (List.replicate zeros '0' ++ digits) ∧
        (sign = [] ∨ sign = ['+']) ∧ IsCode value digits := by
  rw [number_eq_some_iff]
  constructor
  · rintro ⟨⟨sign, digits, rfl, signed, -, numeric, formed, -⟩, low, high⟩
    obtain ⟨zeros, same⟩ := digits_behind_zeros numeric
    rw [formed, if_neg (by omega)] at same
    exact ⟨sign, zeros, _, by rw [same], signed, is_code_digits low (by omega)⟩
  · rintro ⟨sign, zeros, digits, rfl, signed, code⟩
    have low := code.low
    have high := code.high
    refine ⟨⟨sign, _, rfl, signed, ?_, ?_, ?_, by omega⟩, low, by omega⟩
    · have three := code.three
      rintro none
      rw [(List.append_eq_nil_iff.mp none).2] at three
      cases three
    · rw [List.forall_mem_append]
      refine ⟨fun c member => ?_, code.numeric⟩
      rw [List.eq_of_mem_replicate member]
      rfl
    · rw [Nat.ofDigitChars_append, Nat.ofDigitChars_replicate_zero]
      exact code.formed

/-- A letter among the three characters is neither a digit nor a sign. -/
theorem number_of_range {digit first second : Char} (crossed : isCross first = true) :
    number? [digit, first, second] = none := by
  rw [Option.eq_none_iff_forall_not_mem]
  rintro value read
  obtain ⟨sign, digits, same, signed, -, numeric, -⟩ := number_eq_some_iff.mp read
  have own : Text.isAsciiDigit first = true := by
    obtain rfl | rfl := signed <;> cases same <;> exact numeric first (by simp)
  obtain rfl | rfl : first = 'x' ∨ first = 'X' := by simpa [isCross] using crossed
  · exact absurd own (by decide)
  · exact absurd own (by decide)

theorem range_eq_some_iff {chars : List Char} {status : Status} :
    parseRange? chars = some status ↔ ∃ digit first second, chars = [digit, first, second] ∧
      isCross first = true ∧ isCross second = true ∧ '1' ≤ digit ∧ digit ≤ '5' ∧
      status = .range (digit.toNat - 0x30) := by
  constructor
  · intro read
    unfold parseRange? at read
    split at read
    · rename_i digit first second
      split at read
      · rename_i proper
        cases read
        simp only [Bool.and_eq_true, decide_eq_true_eq] at proper
        obtain ⟨⟨⟨crossed, again⟩, low⟩, high⟩ := proper
        exact ⟨digit, first, second, rfl, crossed, again, low, high, rfl⟩
      · cases read
    · cases read
  · rintro ⟨digit, first, second, rfl, crossed, again, low, high, rfl⟩
    simp only [parseRange?, crossed, again, low, high, decide_true, Bool.and_self, if_true]

theorem code_is_read {key : String} {value zeros : Nat} {sign digits : List Char}
    (code : IsCode value digits) (signed : sign = [] ∨ sign = ['+'])
    (same : key.toList = sign ++ (List.replicate zeros '0' ++ digits)) :
    parse? key = some (.code value) := by
  obtain ⟨number, low, high⟩ := number_is_code_iff.mpr ⟨sign, zeros, digits, same, signed, code⟩
  have other : key ≠ "default" := by
    rintro rfl
    cases number
  simp only [parse?, if_neg other, number, low, high, decide_true, Bool.and_self, if_true]

theorem range_is_read {key : String} {digit first second : Char} (low : '1' ≤ digit)
    (high : digit ≤ '5') (crossed : isCross first = true) (again : isCross second = true)
    (same : key.toList = [digit, first, second]) :
    parse? key = some (.range (digit.toNat - 0x30)) := by
  have other : key ≠ "default" := by
    rintro rfl
    cases same
  rw [parse?, if_neg other, same, number_of_range crossed]
  exact range_eq_some_iff.mpr ⟨digit, first, second, rfl, crossed, again, low, high, rfl⟩

/-- Besides the keys of the grammar, the padded codes are read, and nothing else. -/
theorem parse_eq_some_iff {key : String} {status : Status} :
    parse? key = some status ↔ Spells status key.toList ∨ Pads status key.toList := by
  constructor
  · intro read
    unfold parse? at read
    split at read
    · subst key
      cases read
      exact .inl .default
    · split at read
      · rename_i value number
        split at read
        · rename_i within
          cases read
          obtain ⟨sign, zeros, digits, same, signed, code⟩ :=
            number_is_code_iff.mp ⟨number, by simpa using within⟩
          rw [same]
          by_cases padded : sign ≠ [] ∨ 0 < zeros
          · exact .inr (.code code signed padded)
          · obtain ⟨rfl, rfl⟩ : sign = [] ∧ zeros = 0 := by simpa using padded
            exact .inl (.code code)
        · cases read
      · obtain ⟨digit, first, second, same, crossed, again, low, high, rfl⟩ :=
          range_eq_some_iff.mp read
        rw [same]
        exact .inl (.range low high crossed again)
  · generalize same : key.toList = chars
    rintro (spelled | padded)
    · cases spelled with
      | default =>
          obtain rfl : key = "default" := String.toList_injective same
          rfl
      | code code => exact @code_is_read key _ 0 [] _ code (.inl rfl) same
      | range low high crossed again => exact range_is_read low high crossed again same
    · cases padded with
      | code code signed => exact code_is_read code signed same

theorem code_label_chars (value : Nat) : (label (.code value)).toList = Nat.toDigits 10 value := by
  rw [label, Nat.toString_eq_repr, Nat.toList_repr]

theorem range_label {digit first second : Char} (low : '1' ≤ digit) (high : digit ≤ '5')
    (crossed : isCross first = true) (again : isCross second = true) :
    Text.eqIgnoringAsciiCase (label (.range (digit.toNat - 0x30))).toList
      [digit, first, second] = true := by
  have labels : ∀ number < 10, '1' ≤ Nat.digitChar number → Nat.digitChar number ≤ '5' →
      ∀ first ∈ ['x', 'X'], ∀ second ∈ ['x', 'X'],
        Text.eqIgnoringAsciiCase (label (.range ((Nat.digitChar number).toNat - 0x30))).toList
          [Nat.digitChar number, first, second] = true := by decide
  have numeric : Text.isAsciiDigit digit = true := by
    simp only [Text.isAsciiDigit, Bool.and_eq_true, decide_eq_true_eq]
    exact ⟨Char.le_trans (by decide) low, Char.le_trans high (by decide)⟩
  obtain ⟨number, small, rfl⟩ := Text.ascii_digit_cases numeric
  exact labels number small low high first (by simpa [isCross] using crossed) second
    (by simpa [isCross] using again)

/-- The label of a key of the grammar is that key, up to the case of letters. -/
theorem Spells.label_eq {status : Status} {chars : List Char} (spelled : Spells status chars) :
    Text.eqIgnoringAsciiCase status.label.toList chars = true := by
  cases spelled with
  | default => decide
  | code code =>
      rw [code_label_chars, code.digits_eq, Text.eqIgnoringAsciiCase, beq_self_eq_true]
  | range low high crossed again => exact range_label low high crossed again

/-- A padded key is longer than its label. -/
theorem Pads.label_ne {status : Status} {chars : List Char} (padded : Pads status chars) :
    Text.eqIgnoringAsciiCase status.label.toList chars = false := by
  cases padded with
  | @code value zeros sign digits code signed padded =>
      rw [Text.eqIgnoringAsciiCase, beq_eq_false_iff_ne, code_label_chars]
      intro same
      have long := congrArg List.length same
      simp only [List.length_map, List.length_append, List.length_replicate, code.three,
        three_digits code.low code.high] at long
      have shorter : sign.length = 0 := by omega
      obtain signed | zeros := padded
      · exact signed (List.eq_nil_of_length_eq_zero shorter)
      · omega

/-- A key is read exactly when it is of the grammar or a padded code, and then its label is the key
up to the case of letters exactly when it is of the grammar. -/
theorem padded_codes_are_read (key : String) (status : Status) :
    (parse? key = some status ↔ Spells status key.toList ∨ Pads status key.toList) ∧
      (parse? key = some status →
        (Text.eqIgnoringAsciiCase status.label.toList key.toList = true ↔
          Spells status key.toList)) := by
  refine ⟨parse_eq_some_iff, fun read => ⟨fun same => ?_, Spells.label_eq⟩⟩
  obtain spelled | padded := parse_eq_some_iff.mp read
  · exact spelled
  · rw [padded.label_ne] at same
    cases same

theorem signed_code_is_read :
    parse? "+200" = some (.code 200) ∧ Pads (.code 200) "+200".toList ∧
      ¬ Spells (.code 200) "+200".toList := by
  have read : parse? "+200" = some (.code 200) := by decide
  have outside : ¬ Spells (.code 200) "+200".toList := by
    rw [← (padded_codes_are_read "+200" (.code 200)).2 read]
    decide
  exact ⟨read, ((padded_codes_are_read "+200" (.code 200)).1.mp read).resolve_left outside, outside⟩

end Blueprint.Status

end ApiScaffold
