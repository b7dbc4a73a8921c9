import ApiScaffold.Json.Printer
import ApiScaffold.Json.Reader
import ApiScaffold.Proofs.Numerals
import Mathlib.Data.List.TakeWhile

/-!
Numbers in a text. A number ends where none of its characters follows, so it is read alike whatever
stands behind it. Integers of 64 bits are read back as they were written.
-/

namespace ApiScaffold.Json

namespace Reader

/-- The text does not go on with what could still belong to a number. -/
def Ended (tail : List Char) : Prop :=
  ∀ c ∈ tail.head?, isDigit c = false ∧ c ≠ '.' ∧ c ≠ 'e' ∧ c ≠ 'E'

/-- Whatever is read of a text is read of a longer one as well, and `tail` is left over besides. -/
def Continues {α : Type} (tail : List Char) (short long : Except ReadError (α × List Char)) :
    Prop :=
  ∀ read rest, short = .ok (read, rest) → long = .ok (read, rest ++ tail)

namespace Continues

variable {α β : Type} {tail : List Char}

theorem ok (read : α) (rest : List Char) :
    Continues tail (.ok (read, rest)) (.ok (read, rest ++ tail)) := by
  intro read rest same
  cases same
  rfl

theorem error (reason : ReadError) (long : Except ReadError (α × List Char)) :
    Continues tail (.error reason) long := by
  intro read rest same
  cases same

theorem bind {short long : Except ReadError (α × List Char)}
    {next : α × List Char → Except ReadError (β × List Char)} (first : Continues tail short long)
    (second : ∀ read rest, Continues tail (next (read, rest)) (next (read, rest ++ tail))) :
    Continues tail (short >>= next) (long >>= next) := by
  cases short with
  | error reason => exact .error reason _
  | ok pair =>
      rw [first pair.1 pair.2 rfl]
      exact second pair.1 pair.2

theorem ite {condition : Prop} [Decidable condition]
    {short long short' long' : Except ReadError (α × List Char)}
    (yes : Continues tail short long) (no : Continues tail short' long') :
    Continues tail (if condition then short else short') (if condition then long else long') := by
  split
  · exact yes
  · exact no

end Continues

def exponentSign : List Char → Bool × List Char
  | '+' :: after => (false, after)
  | '-' :: after => (true, after)
  | after => (false, after)

theorem exponent_sign_append {chars : List Char} (given : chars ≠ []) (tail : List Char) :
    exponentSign (chars ++ tail) = ((exponentSign chars).1, (exponentSign chars).2 ++ tail) := by
  cases chars with
  | nil => exact absurd rfl given
  | cons sign after =>
      by_cases plus : sign = '+'
      · subst plus
        rfl
      · by_cases minus : sign = '-'
        · subst minus
          rfl
        · rw [List.cons_append, exponentSign, exponentSign] <;> simp [plus, minus]

theorem exponent_part_eq (digits : Digits) {c : Char} (letter : (c = 'e' || c = 'E') = true)
    (rest : List Char) : exponentPart digits (c :: rest) =
      if startsWithDigit (exponentSign rest).2 then
        .ok ({ digits with exponent :=
          if (exponentSign rest).1 then
            digits.exponent - (exponentDigits (exponentSign rest).2).1
          else digits.exponent + (exponentDigits (exponentSign rest).2).1 },
          (exponentDigits (exponentSign rest).2).2)
      else .error .invalidNumber := by
  unfold exponentPart
  dsimp only
  rw [if_pos letter]
  rfl

def scaled (negative : Bool) (digits : Digits) (rest : List Char) :
    Except ReadError (JsonNumber × List Char) :=
  match scale digits with
  | some value => .ok (signedNumber negative value, rest)
  | none => .error .numberOutOfRange

def unscaled (negative : Bool) (digits : Digits) (rest : List Char) :
    Except ReadError (JsonNumber × List Char) :=
  if digits.full then scaled negative digits rest else .ok (plainInteger negative digits, rest)

def afterWhole (negative : Bool) (digits : Digits) :
    List Char → Except ReadError (JsonNumber × List Char)
  | '.' :: rest => do
    let fraction ← fractionPart digits rest
    let part ← exponentPart fraction.1 fraction.2
    scaled negative part.1 part.2
  | c :: rest =>
    if c = 'e' || c = 'E' then do
      let part ← exponentPart digits (c :: rest)
      scaled negative part.1 part.2
    else unscaled negative digits (c :: rest)
  | [] => unscaled negative digits []

/-- Numbers begin with a digit, but with a zero only if that is all before the point. -/
def beginsNumber (chars : List Char) : Bool :=
  startsWithDigit chars && !(chars.head? = some '0' && startsWithDigit chars.tail)

theorem number_eq (negative : Bool) (chars : List Char) : number negative chars =
    if beginsNumber chars then
      afterWhole negative (wholeDigits ⟨0, 0, false⟩ chars).1 (wholeDigits ⟨0, 0, false⟩ chars).2
    else .error .invalidNumber := by
  unfold number beginsNumber
  generalize wholeDigits ⟨0, 0, false⟩ chars = whole
  obtain ⟨digits, after⟩ := whole
  cases startsWithDigit chars with
  | false => rfl
  | true =>
    cases decide (chars.head? = some '0') && startsWithDigit chars.tail with
    | true => rfl
    | false =>
      cases after with
      | nil => rfl
      | cons c rest =>
        by_cases point : c = '.'
        · subst point
          rfl
        · simp only [afterWhole]
          rfl

section Tails

variable {tail : List Char} (ended : Ended tail)

include ended

theorem starts_append (chars : List Char) :
    startsWithDigit (chars ++ tail) = startsWithDigit chars := by
  cases chars with
  | nil =>
      cases tail with
      | nil => rfl
      | cons c rest => exact (ended c rfl).1
  | cons c rest => rfl

theorem whole_digits_append (chars : List Char) : ∀ digits, wholeDigits digits (chars ++ tail) =
    ((wholeDigits digits chars).1, (wholeDigits digits chars).2 ++ tail) := by
  induction chars with
  | nil =>
      intro digits
      cases tail with
      | nil => rfl
      | cons c rest => simp [wholeDigits, (ended c rfl).1]
  | cons c rest induction =>
      intro digits
      rw [List.cons_append, wholeDigits, wholeDigits]
      dsimp only
      split
      · split
        · exact induction _
        · exact induction _
      · rfl

theorem fraction_digits_append (chars : List Char) : ∀ digits dropping,
    fractionDigits digits dropping (chars ++ tail) =
      ((fractionDigits digits dropping chars).1,
        (fractionDigits digits dropping chars).2 ++ tail) := by
  induction chars with
  | nil =>
      intro digits dropping
      cases tail with
      | nil => rfl
      | cons c rest => simp [fractionDigits, (ended c rfl).1]
  | cons c rest induction =>
      intro digits dropping
      rw [List.cons_append, fractionDigits, fractionDigits]
      dsimp only
      split
      · split
        · exact induction _ _
        · exact induction _ _
      · rfl

theorem fraction_part_continues (digits : Digits) (chars : List Char) :
    Continues tail (fractionPart digits chars) (fractionPart digits (chars ++ tail)) := by
  unfold fractionPart
  rw [starts_append ended, fraction_digits_append ended]
  exact .ite (.ok _ _) (.error _ _)

theorem exponent_digits_append (chars : List Char) : exponentDigits (chars ++ tail) =
    ((exponentDigits chars).1, (exponentDigits chars).2 ++ tail) := by
  have none : tail.takeWhile isDigit = [] ∧ tail.dropWhile isDigit = tail := by
    cases tail with
    | nil => exact ⟨rfl, rfl⟩
    | cons c rest => simp [(ended c rfl).1]
  have taken : (chars ++ tail).takeWhile isDigit = chars.takeWhile isDigit := by
    rw [List.takeWhile_append, none.1, List.append_nil]
    split
    · rename_i whole
      exact ((List.takeWhile_prefix isDigit).eq_of_length whole).symm
    · rfl
  have dropped : (chars ++ tail).dropWhile isDigit = chars.dropWhile isDigit ++ tail := by
    rw [List.dropWhile_append, none.2]
    split
    · rename_i whole
      rw [List.isEmpty_iff.mp whole, List.nil_append]
    · rfl
  rw [exponentDigits, taken, dropped]
  rfl

theorem exponent_part_continues (digits : Digits) (chars : List Char) :
    Continues tail (exponentPart digits chars) (exponentPart digits (chars ++ tail)) := by
  cases chars with
  | nil =>
      have whole : exponentPart digits tail = .ok (digits, tail) := by
        cases tail with
        | nil => rfl
        | cons c more => simp [exponentPart, (ended c rfl).2.2]
      rw [List.nil_append, whole]
      exact .ok digits []
  | cons c more =>
      by_cases letter : (c = 'e' || c = 'E') = true
      · rw [List.cons_append, exponent_part_eq digits letter, exponent_part_eq digits letter]
        by_cases given : more = []
        · subst given
          exact .error _ _
        · rw [exponent_sign_append given, exponent_digits_append ended, starts_append ended]
          exact .ite (.ok _ _) (.error _ _)
      · unfold exponentPart
        dsimp only [List.cons_append]
        rw [if_neg letter, if_neg letter]
        exact .ok digits (c :: more)

omit ended in
theorem scaled_continues (negative : Bool) (digits : Digits) (rest : List Char) :
    Continues tail (scaled negative digits rest) (scaled negative digits (rest ++ tail)) := by
  unfold scaled
  cases scale digits with
  | some value => exact .ok _ rest
  | none => exact .error _ _

omit ended in
theorem unscaled_continues (negative : Bool) (digits : Digits) (rest : List Char) :
    Continues tail (unscaled negative digits rest) (unscaled negative digits (rest ++ tail)) :=
  .ite (scaled_continues negative digits rest) (.ok _ rest)

theorem after_whole_continues (negative : Bool) (digits : Digits) (chars : List Char) :
    Continues tail (afterWhole negative digits chars)
      (afterWhole negative digits (chars ++ tail)) := by
  cases chars with
  | nil =>
      have whole : afterWhole negative digits tail = unscaled negative digits tail := by
        cases tail with
        | nil => rfl
        | cons c more =>
            obtain ⟨_, point, lower, upper⟩ := ended c rfl
            simp [afterWhole, lower, upper]
      rw [List.nil_append, whole]
      exact unscaled_continues negative digits []
  | cons c more =>
      by_cases point : c = '.'
      · subst point
        apply (fraction_part_continues ended digits more).bind
        intro fraction rest
        apply (exponent_part_continues ended fraction rest).bind
        exact scaled_continues negative
      · simp only [List.cons_append, afterWhole]
        apply Continues.ite
        · apply (exponent_part_continues ended digits (c :: more)).bind
          exact scaled_continues negative
        · exact unscaled_continues negative digits (c :: more)

theorem begins_number_append (chars : List Char) :
    beginsNumber (chars ++ tail) = beginsNumber chars := by
  cases chars with
  | nil => rw [beginsNumber, starts_append ended]; rfl
  | cons c more =>
      have inner := starts_append ended more
      exact congrArg (fun digit => isDigit c && !(decide (some c = some '0') && digit)) inner

theorem number_continues (negative : Bool) (chars : List Char) :
    Continues tail (number negative chars) (number negative (chars ++ tail)) := by
  rw [number_eq, number_eq, begins_number_append ended, whole_digits_append ended]
  exact .ite (after_whole_continues ended negative _ _) (.error _ _)

end Tails

theorem le_digit_chars (digits : List Char) : ∀ kept, kept ≤ Nat.ofDigitChars 10 digits kept := by
  induction digits with
  | nil => exact fun kept => Nat.le_refl kept
  | cons c rest induction =>
      intro kept
      rw [Nat.ofDigitChars_cons]
      have grown := induction (10 * kept + (c.toNat - '0'.toNat))
      omega

/-- Digits are all kept if their number fits a word. -/
theorem whole_digits_kept {digits : List Char} (plain : ∀ c ∈ digits, isDigit c = true) :
    ∀ kept, Nat.ofDigitChars 10 digits kept ≤ wordLimit →
      wholeDigits ⟨kept, 0, false⟩ digits = (⟨Nat.ofDigitChars 10 digits kept, 0, false⟩, []) := by
  induction digits with
  | nil =>
      intro kept _
      rfl
  | cons c rest induction =>
      intro kept fits
      obtain ⟨digit, others⟩ := List.forall_mem_cons.mp plain
      rw [Nat.ofDigitChars_cons] at fits ⊢
      have small := Nat.le_trans (le_digit_chars rest _) fits
      have next : kept * 10 + digitValue c = 10 * kept + (c.toNat - '0'.toNat) := by
        rw [digitValue, Nat.mul_comm]
      rw [wholeDigits, if_pos digit]
      dsimp only
      rw [next, if_neg (by simpa using small)]
      exact induction others _ fits

/-- No number but zero begins with the digit zero. -/
theorem digits_lead {number : Nat} (positive : 0 < number) :
    ∃ c rest, Nat.toDigits 10 number = c :: rest ∧ isDigit c = true ∧ c ≠ '0' := by
  induction number using Nat.strongRecOn with
  | ind number induction =>
      by_cases small : number < 10
      · have each : ∀ digit < 10, 0 < digit →
            isDigit digit.digitChar = true ∧ digit.digitChar ≠ '0' := by decide
        exact ⟨_, [], Nat.toDigits_of_lt_base small, each number small positive⟩
      · obtain ⟨c, rest, digits, lead⟩ := induction (number / 10) (by omega) (by omega)
        rw [Nat.toDigits_of_base_le (by decide) (by omega), digits]
        exact ⟨c, _, rfl, lead⟩

theorem digits_begin (number : Nat) : beginsNumber (Nat.toDigits 10 number) = true := by
  cases number with
  | zero => decide
  | succ number =>
      obtain ⟨c, rest, digits, digit, given⟩ := digits_lead (Nat.succ_pos number)
      simp [digits, beginsNumber, startsWithDigit, digit, given]

theorem digit_first {chars : List Char} (begins : beginsNumber chars = true) :
    ∃ c rest, chars = c :: rest ∧ isDigit c = true := by
  cases chars with
  | nil => cases begins
  | cons c rest => exact ⟨c, rest, rfl, (Bool.and_eq_true_iff.mp begins).1⟩

theorem skip_digit {c : Char} (digit : isDigit c = true) (rest : List Char) :
    skipSpaces (c :: rest) = c :: rest := by
  have printed : isSpace c = false := by
    by_contra blank
    simp only [isSpace, Bool.not_eq_false, Bool.or_eq_true, beq_iff_eq] at blank
    rcases blank with ((rfl | rfl) | rfl) | rfl <;> cases digit
  exact List.dropWhile_cons_of_neg (by rw [printed]; decide)

/-- The digits of a natural number that fits a word are read as that number. -/
theorem number_of_digits (negative : Bool) {value : Nat} (fits : value ≤ wordLimit) :
    number negative (Nat.toDigits 10 value) =
      .ok (plainInteger negative ⟨value, 0, false⟩, []) := by
  have digits : ∀ c ∈ Nat.toDigits 10 value, isDigit c = true := by
    intro c member
    exact Identifier.number_digits (by simpa using member)
  have kept := whole_digits_kept digits 0
  rw [Nat.ofDigitChars_ten_toDigits] at kept
  rw [number_eq, if_pos (digits_begin value), kept fits]
  rfl

def numberValue (pair : JsonNumber × List Char) : Json × List Char := (.number pair.1, pair.2)

theorem value_minus (fuel : Nat) {chars more : List Char}
    (begins : skipSpaces chars = '-' :: more) :
    value (fuel + 1) chars = (number true more).map numberValue := by
  rw [value, begins]
  split
  case h_8 same =>
    cases same
    cases number true more with
    | error reason => rfl
    | ok pair => rfl
  case h_9 apart same =>
    cases same
    exact absurd rfl apart
  all_goals
    rename_i same
    cases same

theorem value_digit (fuel : Nat) {chars more : List Char} {c : Char}
    (begins : skipSpaces chars = c :: more) (digit : isDigit c = true) :
    value (fuel + 1) chars = (number false (c :: more)).map numberValue := by
  rw [value, begins]
  split
  case h_9 same =>
    cases same
    rw [if_pos digit]
    cases number false (c :: more) with
    | error reason => rfl
    | ok pair => rfl
  all_goals
    rename_i same
    cases same
  all_goals cases digit

/-- What is made of the parts that are read is never anything else. -/
theorem made_of {α : Type} {make : α → Json} {parts : Except ReadError (α × List Char)}
    {read : Json} {rest : List Char}
    (reads : (do let (part, rest) ← parts; return (make part, rest)) =
      (.ok (read, rest) : Except ReadError (Json × List Char))) : ∃ part, make part = read := by
  cases parts with
  | error reason => cases reads
  | ok pair =>
      cases reads
      exact ⟨pair.1, rfl⟩

theorem word_value {letters : String} {named read : Json} {chars rest : List Char}
    (reads : word letters named chars = .ok (read, rest)) : named = read := by
  unfold word at reads
  split at reads
  · cases reads
    rfl
  · cases reads

/-- Only a minus or a digit begins a number. -/
theorem number_begins {fuel : Nat} {chars rest : List Char} {read : JsonNumber}
    (reads : value fuel chars = .ok (.number read, rest)) :
    ∃ c more, skipSpaces chars = c :: more ∧ (c = '-' ∨ isDigit c = true) := by
  cases fuel with
  | zero => cases reads
  | succ fuel =>
      rw [value] at reads
      split at reads
      case h_1 => cases reads
      case h_2 =>
        obtain ⟨_, same⟩ := made_of reads
        cases same
      case h_3 =>
        split at reads
        · cases reads
        · obtain ⟨_, same⟩ := made_of reads
          cases same
      case h_4 =>
        split at reads
        · cases reads
        · obtain ⟨_, same⟩ := made_of reads
          cases same
      case h_5 => cases word_value reads
      case h_6 => cases word_value reads
      case h_7 => cases word_value reads
      case h_8 begins => exact ⟨_, _, begins, .inl rfl⟩
      case h_9 begins =>
        split at reads
        case isTrue digit => exact ⟨_, _, begins, .inr digit⟩
        case isFalse => cases reads

theorem skip_spaces_append {chars more : List Char} {c : Char}
    (begins : skipSpaces chars = c :: more) (tail : List Char) :
    skipSpaces (chars ++ tail) = c :: (more ++ tail) := by
  unfold skipSpaces at begins ⊢
  rw [List.dropWhile_append, begins]
  rfl

/-- Read as a value, a number is the same whatever stands behind it. -/
theorem number_value_continues {fuel : Nat} {chars rest tail : List Char} {read : JsonNumber}
    (ended : Ended tail) (reads : value fuel chars = .ok (.number read, rest)) (more : Nat) :
    value (more + 1) (chars ++ tail) = .ok (.number read, rest ++ tail) := by
  obtain ⟨c, after, begins, kind⟩ := number_begins reads
  cases fuel with
  | zero => cases reads
  | succ fuel =>
      have longer := skip_spaces_append begins tail
      have kept {negative : Bool} {digits : List Char}
          (reads : (number negative digits).map numberValue = .ok (.number read, rest)) :
          (number negative (digits ++ tail)).map numberValue =
            .ok (.number read, rest ++ tail) := by
        cases pair : number negative digits with
        | error reason =>
            rw [pair] at reads
            cases reads
        | ok pair' =>
            rw [pair] at reads
            cases reads
            rw [number_continues ended negative digits _ _ pair]
            rfl
      rcases kind with rfl | digit
      · rw [value_minus fuel begins] at reads
        rw [value_minus more longer]
        exact kept reads
      · rw [value_digit fuel begins digit] at reads
        rw [value_digit more longer digit]
        exact kept reads

end Reader

open Reader

/-- A text whose only value is read to its end, but for blanks. -/
theorem read_iff {text : String} {read : Json} : Json.read text = .ok read ↔
    ∃ blanks, (∀ c ∈ blanks, isSpace c = true) ∧
      value (text.toList.length + 1) text.toList = .ok (read, blanks) := by
  have blank (rest : List Char) : (skipSpaces rest).isEmpty = true ↔
      ∀ c ∈ rest, isSpace c = true := by
    rw [List.isEmpty_iff, skipSpaces, List.dropWhile_eq_nil_iff]
  unfold Json.read
  dsimp only
  cases value (text.toList.length + 1) text.toList with
  | error reason =>
      constructor
      · intro same
        cases same
      · rintro ⟨_, _, same⟩
        cases same
  | ok pair =>
      constructor
      · intro reads
        change (if (skipSpaces pair.2).isEmpty then _ else _) = _ at reads
        split at reads
        · rename_i ended
          cases reads
          exact ⟨pair.2, (blank pair.2).mp ended, rfl⟩
        · cases reads
      · rintro ⟨blanks, blanked, same⟩
        cases same
        exact if_pos ((blank blanks).mpr blanked)

end ApiScaffold.Json

namespace ApiScaffold

open Json Reader

/-- What is written for the number is read as the number. -/
def JsonNumber.Legible (number : JsonNumber) : Prop :=
  Json.read number.write = .ok (.number number)

instance (number : JsonNumber) : Decidable number.Legible :=
  decidable_of_iff ((Json.read number.write).toOption.any fun
    | .number found => decide (found = number)
    | _ => false) <| by
    unfold JsonNumber.Legible
    cases Json.read number.write with
    | error reason => simp [Except.toOption]
    | ok value => cases value <;> simp [Except.toOption]

theorem JsonNumber.Legible.reads {number : JsonNumber} (legible : number.Legible) :
    ∃ blanks, (∀ c ∈ blanks, isSpace c = true) ∧ ∀ fuel tail, Ended tail →
      value (fuel + 1) (number.write.toList ++ tail) = .ok (.number number, blanks ++ tail) := by
  obtain ⟨blanks, blank, reads⟩ := read_iff.mp legible
  exact ⟨blanks, blank, fun fuel tail ended => number_value_continues ended reads fuel⟩

theorem natural_written (value : Nat) :
    (JsonNumber.integer value).write.toList = Nat.toDigits 10 value := by
  rw [JsonNumber.write, Int.toString_eq_repr, Int.repr_eq_if, if_pos (Int.natCast_nonneg value),
    Int.toNat_natCast, Nat.toList_repr]

theorem negative_written {value : Nat} (positive : 0 < value) :
    (JsonNumber.integer (-value)).write.toList = '-' :: Nat.toDigits 10 value := by
  rw [JsonNumber.write, Int.toString_eq_repr, Int.repr_eq_if, if_neg (by omega), Int.neg_neg,
    Int.toNat_natCast, String.toList_append, Nat.toList_repr]
  rfl

/-- Integers of 64 bits are read back as they were written. -/
theorem integer_legible {value : Int} (least : JsonNumber.leastInteger ≤ value)
    (greatest : value ≤ JsonNumber.greatestInteger) : (JsonNumber.integer value).Legible := by
  unfold JsonNumber.leastInteger at least
  unfold JsonNumber.greatestInteger at greatest
  apply read_iff.mpr
  refine ⟨[], List.forall_mem_nil _, ?_⟩
  by_cases negative : value < 0
  · obtain ⟨size, rfl⟩ : ∃ size : Nat, value = -size := ⟨value.natAbs, by omega⟩
    have fits : size ≤ wordLimit := by
      unfold wordLimit
      omega
    have kept : ¬ (size = 0 || (size : Int) > 9223372036854775808) := by
      simp only [Bool.or_eq_true, decide_eq_true_eq]
      omega
    rw [negative_written (by omega), value_minus _ rfl, number_of_digits true fits]
    have signed : plainInteger true ⟨size, 0, false⟩ = .integer (-size) := if_neg kept
    rw [signed]
    rfl
  · obtain ⟨size, rfl⟩ : ∃ size : Nat, value = size := ⟨value.toNat, by omega⟩
    have fits : size ≤ wordLimit := by
      unfold wordLimit
      omega
    rw [natural_written]
    have read := number_of_digits false fits
    obtain ⟨c, more, digits, digit⟩ := digit_first (digits_begin size)
    rw [digits] at read ⊢
    rw [value_digit _ (skip_digit digit more) digit, read]
    rfl

/-- A number that its text gives back: an integer of 64 bits, or a fraction for which that is so. -/
def JsonNumber.Recoverable : JsonNumber → Prop
  | .integer value => leastInteger ≤ value ∧ value ≤ greatestInteger
  | .double value => (JsonNumber.double value).Legible

instance : (number : JsonNumber) → Decidable number.Recoverable
  | .integer _ => inferInstanceAs (Decidable (_ ∧ _))
  | .double value => inferInstanceAs (Decidable (JsonNumber.double value).Legible)

theorem JsonNumber.Recoverable.legible {number : JsonNumber} (recoverable : number.Recoverable) :
    number.Legible := by
  cases number with
  | integer value => exact integer_legible recoverable.1 recoverable.2
  | double value => exact recoverable

end ApiScaffold
