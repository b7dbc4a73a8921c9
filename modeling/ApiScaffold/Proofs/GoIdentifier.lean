import ApiScaffold.Proofs.CamelCase
import ApiScaffold.Proofs.CategoryTable

/-!
Identifiers of the language: a letter or an underscore, then letters, decimal digits and underscores.
Putting something behind an identifier leaves one if only such characters are put there. Camel case
leaves one if letters stay letters in the other case, as all but a few do: some get an accent that is
a character of its own.
-/

namespace ApiScaffold.Go

def isLetter (c : Char) : Bool :=
  if c.toNat < 0x80 then Text.isAsciiLetter c
  else Text.CategoryTable.letters.any (·.contains c.toNat)

def isDecimalDigit (c : Char) : Bool :=
  if c.toNat < 0x80 then Text.isAsciiDigit c
  else Text.CategoryTable.decimalDigits.any (·.contains c.toNat)

def startsIdentifier (c : Char) : Bool := isLetter c || c == '_'

def continuesIdentifier (c : Char) : Bool := startsIdentifier c || isDecimalDigit c

def IsWord (text : String) : Prop := ∀ c ∈ text.toList, continuesIdentifier c = true

instance (text : String) : Decidable (IsWord text) :=
  inferInstanceAs (Decidable (∀ c ∈ text.toList, _))

structure IsIdentifier (name : String) : Prop where
  starts : name.toList.head?.any startsIdentifier = true
  word : IsWord name

instance (name : String) : Decidable (IsIdentifier name) :=
  decidable_of_iff (name.toList.head?.any startsIdentifier = true ∧ IsWord name)
    ⟨fun both => ⟨both.1, both.2⟩, fun identifier => ⟨identifier.starts, identifier.word⟩⟩

theorem is_word_append {first second : String} :
    IsWord (first ++ second) ↔ IsWord first ∧ IsWord second := by
  unfold IsWord
  rw [String.toList_append, List.forall_mem_append]

section

variable {name text : String}

theorem IsIdentifier.ne_empty (identifier : IsIdentifier name) : name ≠ "" := by
  rintro rfl
  cases identifier.starts

theorem starts_append (given : name ≠ "") :
    (name ++ text).toList.head?.any startsIdentifier = name.toList.head?.any startsIdentifier := by
  rw [String.toList_append]
  cases chars : name.toList with
  | nil => exact absurd (String.toList_inj.mp chars) given
  | cons c rest => rfl

theorem is_identifier_append (given : name ≠ "") :
    IsIdentifier (name ++ text) ↔ IsIdentifier name ∧ IsWord text := by
  constructor
  · rintro ⟨starts, word⟩
    rw [starts_append given] at starts
    obtain ⟨own, other⟩ := is_word_append.mp word
    exact ⟨⟨starts, own⟩, other⟩
  · rintro ⟨⟨starts, own⟩, other⟩
    exact ⟨(starts_append given).trans starts, is_word_append.mpr ⟨own, other⟩⟩

theorem IsIdentifier.append (identifier : IsIdentifier name) (word : IsWord text) :
    IsIdentifier (name ++ text) :=
  (is_identifier_append identifier.ne_empty).mpr ⟨identifier, word⟩

end

/-- A letter of a text is one in the other case, too. -/
def Steady (text : String) : Prop :=
  ∀ c ∈ text.toList, isLetter c = true → ∀ form ∈ Text.caseForms c, isLetter form = true

theorem steady_append {first second : String} :
    Steady (first ++ second) ↔ Steady first ∧ Steady second := by
  unfold Steady
  rw [String.toList_append, List.forall_mem_append]

/-- Of the first 128 characters only the letters have other forms, which are letters. -/
theorem ascii_forms {c : Char} (ascii : c.toNat < 0x80) : ∀ form ∈ Text.caseForms c,
    form = c ∨ isLetter c = true ∧ isLetter form = true := by
  have each : ∀ code < 0x80, ∀ form ∈ Text.caseForms (Char.ofNat code), form = Char.ofNat code ∨
      isLetter (Char.ofNat code) = true ∧ isLetter form = true := by decide
  have own := each c.toNat ascii
  rwa [Char.ofNat_toNat] at own

theorem steady_of_ascii {text : String} (ascii : ∀ c ∈ text.toList, c.toNat < 0x80) :
    Steady text := by
  intro c member letter form listed
  rcases ascii_forms (ascii c member) form listed with rfl | ⟨_, other⟩
  · exact letter
  · exact other

/-- Ranges that hold every character which has another form. -/
def casedRanges : List Text.CodeRange :=
  ((Text.CaseTable.upperRuns ++ Text.CaseTable.lowerRuns).map fun run => ⟨run.first, run.last⟩) ++
    (Text.CaseTable.upperExpansions.map fun entry => ⟨entry.1, entry.1⟩) ++
    ['İ', 'Σ'].map fun c => ⟨c.toNat, c.toNat⟩

theorem digits_apart : (Text.CategoryTable.decimalDigits.all fun digits => casedRanges.all
    fun cased => Nat.blt cased.last digits.first || Nat.blt digits.last cased.first) = true := by
  decide +kernel

theorem digit_not_cased {code : Nat}
    (digit : Text.CategoryTable.decimalDigits.any (·.contains code) = true) :
    ∀ cased ∈ casedRanges, ¬ (cased.first ≤ code ∧ code ≤ cased.last) := by
  obtain ⟨digits, listed, inside⟩ := List.any_eq_true.mp digit
  intro cased member within
  have apart := List.all_eq_true.mp (List.all_eq_true.mp digits_apart digits listed) cased member
  simp only [Bool.or_eq_true, Nat.blt_eq] at apart
  simp only [Text.CodeRange.contains, Bool.and_eq_true, decide_eq_true_eq] at inside
  omega

theorem digit_forms {c : Char} (digit : isDecimalDigit c = true) :
    ∀ form ∈ Text.caseForms c, form = c := by
  unfold isDecimalDigit at digit
  split at digit
  · rename_i ascii
    have each : ∀ code < 0x80, Text.isAsciiDigit (Char.ofNat code) = true →
        ∀ form ∈ Text.caseForms (Char.ofNat code), form = Char.ofNat code := by decide
    have own := each c.toNat ascii
    rw [Char.ofNat_toNat] at own
    exact own digit
  · rename_i outside
    have uncased := digit_not_cased digit
    have unmapped {table : List Text.CodeRun}
        (included : table ⊆ Text.CaseTable.upperRuns ++ Text.CaseTable.lowerRuns) :
        Text.mapCode? table c.toNat = none := by
      unfold Text.mapCode?
      rw [List.findSome?_eq_none_iff]
      intro run member
      have apart := uncased ⟨run.first, run.last⟩ (List.mem_append_left _
        (List.mem_append_left _ (List.mem_map_of_mem (included member))))
      unfold Text.CodeRun.map?
      rw [if_neg]
      simp only [Bool.and_eq_true, decide_eq_true_eq]
      exact fun both => apart both.1
    have unexpanded : Text.CaseTable.upperExpansions.lookup c.toNat = none := by
      apply List.lookup_eq_none_iff.mpr
      intro entry member
      rw [bne_iff_ne]
      intro same
      have apart := uncased ⟨entry.1, entry.1⟩ (List.mem_append_left _
        (List.mem_append_right _ (List.mem_map_of_mem member)))
      exact apart ⟨Nat.le_of_eq same.symm, Nat.le_of_eq same⟩
    have single {other : Char} (among : other ∈ ['İ', 'Σ']) : c ≠ other := by
      rintro rfl
      exact uncased ⟨c.toNat, c.toNat⟩ (List.mem_append_right _ (List.mem_map_of_mem among))
        ⟨Nat.le_refl _, Nat.le_refl _⟩
    have upper : Text.upperChar c = [c] := by
      unfold Text.upperChar
      rw [if_neg outside, unexpanded, unmapped (List.subset_append_left _ _)]
    have lower : Text.lowerChar c = [c] := by
      unfold Text.lowerChar
      rw [if_neg outside, if_neg (single (by decide)), unmapped (List.subset_append_right _ _)]
    unfold Text.caseForms
    rw [upper, lower, if_neg (single (by decide))]
    simp

/-- What continues an identifier does so in the other case, if letters stay letters. -/
theorem form_continues {c form : Char} (continues : continuesIdentifier c = true)
    (steady : isLetter c = true → ∀ form ∈ Text.caseForms c, isLetter form = true)
    (member : form ∈ Text.caseForms c) : continuesIdentifier form = true := by
  have underscore : ∀ form ∈ Text.caseForms '_', form = '_' := by decide
  unfold continuesIdentifier startsIdentifier at continues ⊢
  simp only [Bool.or_eq_true, beq_iff_eq] at continues ⊢
  rcases continues with (letter | rfl) | digit
  · exact .inl (.inl (steady letter form member))
  · exact .inl (.inr (underscore form member))
  · rw [digit_forms digit form member]
    exact .inr digit

section CamelCase

open Identifier (camelCase Unbroken)

variable {name : String} (steady : Steady name)

include steady

theorem camel_case_word (word : IsWord name) : IsWord (camelCase name) := by
  intro form member
  obtain ⟨c, listed, form_of⟩ := Identifier.mem_camel_case member
  exact form_continues (word c listed) (steady c listed) form_of

theorem camel_case_starts (unbroken : Unbroken name.toList) (identifier : IsIdentifier name) :
    ∃ first rest, (camelCase name).toList = first :: rest ∧ isLetter first = true := by
  obtain ⟨starts, _⟩ := identifier
  cases chars : name.toList with
  | nil =>
      rw [chars] at starts
      cases starts
  | cons c rest =>
      rw [chars] at starts unbroken
      have letter : isLetter c = true := by
        rw [List.head?_cons, Option.any_some, startsIdentifier, Bool.or_eq_true] at starts
        refine starts.resolve_right fun underscore => ?_
        have separator := unbroken c List.mem_cons_self
        rw [eq_of_beq underscore] at separator
        cases separator
      have letters := steady c (chars ▸ List.mem_cons_self) letter
      obtain ⟨more, others, cut⟩ := Identifier.words_cons unbroken
      obtain ⟨form, tail, lowered, member⟩ : ∃ form tail,
          Text.lowerChars (c :: more) = form :: tail ∧ form ∈ Text.caseForms c := by
        rw [Text.lowerChars, Text.lowerAfter]
        split
        · rename_i sigma
          refine ⟨_, _, rfl, List.mem_append_right _ ?_⟩
          rw [if_pos sigma]
          split <;> simp
        · cases small : Text.lowerChar c with
          | nil => exact absurd small (Text.lower_char_ne_nil c)
          | cons form tail =>
              refine ⟨form, _, rfl, List.mem_append_left _ (List.mem_append_right _ ?_)⟩
              rw [small]
              exact List.mem_cons_self
      refine ⟨form, tail ++ others.flatMap Identifier.capitalisedWord, ?_, letters form member⟩
      rw [camelCase, chars, cut]
      dsimp only
      rw [String.toList_ofList, lowered]
      rfl

theorem variable_is_identifier (unbroken : Unbroken name.toList) (identifier : IsIdentifier name) :
    IsIdentifier (variableName name) := by
  obtain ⟨first, rest, chars, letter⟩ := camel_case_starts steady unbroken identifier
  have camel : IsIdentifier (camelCase name) := by
    refine ⟨?_, camel_case_word steady identifier.word⟩
    rw [chars, List.head?_cons, Option.any_some, startsIdentifier, letter, Bool.true_or]
  unfold variableName avoidKeyword
  split
  · exact camel.append (by decide)
  · exact camel

end CamelCase

end ApiScaffold.Go
