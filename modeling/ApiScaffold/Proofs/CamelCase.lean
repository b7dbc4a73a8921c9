import ApiScaffold.Go.Literal
import ApiScaffold.Proofs.CaseForms

/-!
The words of a name and the name in camel case. Cutting loses nothing, so camel case only changes the
case of characters. In a name without separators every cut is right before a character, and none is
made inside of an ending such as `Value`: whatever stands before the ending is written alike under
every ending, and the name ends as the ending does.
-/

namespace ApiScaffold.Identifier

section Cuts

variable (cuts : List Nat) (offset : Nat)

theorem cut_at_bytes_ne_nil (chars : List Char) : cutAtBytes cuts offset chars ≠ [] := by
  cases chars with
  | nil =>
      unfold cutAtBytes
      split <;> exact List.cons_ne_nil _ _
  | cons c rest =>
      unfold cutAtBytes
      dsimp only
      split
      · exact List.cons_ne_nil _ _
      · split <;> exact List.cons_ne_nil _ _

/-- A cut piece, with the first character put back before what is cut behind it. -/
theorem cut_at_bytes_cons (c : Char) (rest : List Char) {word : List Char}
    {words : List (List Char)} (cut : cutAtBytes cuts (offset + c.utf8Size) rest = word :: words) :
    cutAtBytes cuts offset (c :: rest) =
      if cuts.contains offset then [] :: (c :: word) :: words else (c :: word) :: words := by
  rw [cutAtBytes, cut]

/-- Nothing is lost between the pieces. -/
theorem flatten_cut_at_bytes (chars : List Char) :
    (cutAtBytes cuts offset chars).flatten = chars := by
  induction chars generalizing offset with
  | nil =>
      unfold cutAtBytes
      split <;> rfl
  | cons c rest induction =>
      have whole := induction (offset + c.utf8Size)
      cases cut : cutAtBytes cuts (offset + c.utf8Size) rest with
      | nil => exact absurd cut (cut_at_bytes_ne_nil _ _ _)
      | cons word words =>
          rw [cut, List.flatten_cons] at whole
          rw [cut_at_bytes_cons cuts offset c rest cut]
          split <;> simp [whole]

theorem cut_nowhere (chars : List Char) : cutAtBytes [] offset chars = [chars] := by
  induction chars generalizing offset with
  | nil => rfl
  | cons c rest induction => rw [cut_at_bytes_cons [] offset c rest (induction _)]; rfl

end Cuts

theorem mem_drop_cut_characters {pieces : List (List Char)} {piece : List Char}
    (member : piece ∈ dropCutCharacters pieces) : ∃ whole ∈ pieces, piece ⊆ whole := by
  induction pieces with
  | nil => cases member
  | cons first rest induction =>
      cases rest with
      | nil => exact ⟨piece, member, List.Subset.refl _⟩
      | cons next others =>
          rcases List.mem_cons.mp member with rfl | later
          · exact ⟨first, List.mem_cons_self, List.dropLast_subset _⟩
          · obtain ⟨whole, listed, included⟩ := induction later
            exact ⟨whole, List.mem_cons_of_mem _ listed, included⟩

theorem mem_words {name word : List Char} (member : word ∈ words name) : word ⊆ name := by
  unfold words at member
  obtain ⟨piece, listed, cut⟩ := List.mem_flatMap.mp (List.mem_filter.mp member).1
  obtain ⟨whole, among, included⟩ := mem_drop_cut_characters listed
  intro c inside
  have within : c ∈ piece := by
    rw [← flatten_cut_at_bytes (letterCuts 0 piece) 0 piece]
    exact List.mem_flatten.mpr ⟨word, cut, inside⟩
  rw [← flatten_cut_at_bytes (separatorCuts 0 name) 0 name]
  exact List.mem_flatten.mpr ⟨whole, among, included within⟩

theorem mem_capitalised_word {word : List Char} {c : Char} (member : c ∈ capitalisedWord word) :
    ∃ d ∈ word, c ∈ Text.caseForms d := by
  cases word with
  | nil => cases member
  | cons first rest =>
      rcases List.mem_append.mp member with upper | lower
      · refine ⟨first, List.mem_cons_self, ?_⟩
        exact List.mem_append_left _ (List.mem_append_left _ upper)
      · obtain ⟨d, listed, form⟩ := Text.mem_lower_after lower
        exact ⟨d, List.mem_cons_of_mem _ listed, form⟩

/-- Camel case changes nothing but the case of characters. -/
theorem mem_camel_case {name : String} {c : Char} (member : c ∈ (camelCase name).toList) :
    ∃ d ∈ name.toList, c ∈ Text.caseForms d := by
  unfold camelCase at member
  split at member
  · cases member
  · rename_i first others cut
    rw [String.toList_ofList] at member
    rcases List.mem_append.mp member with own | later
    · obtain ⟨d, listed, form⟩ := Text.mem_lower_after own
      exact ⟨d, mem_words (cut ▸ List.mem_cons_self) listed, form⟩
    · obtain ⟨word, among, inside⟩ := List.mem_flatMap.mp later
      obtain ⟨d, listed, form⟩ := mem_capitalised_word inside
      exact ⟨d, mem_words (cut ▸ List.mem_cons_of_mem _ among) listed, form⟩

section Unbroken

def Unbroken (name : List Char) : Prop := ∀ c ∈ name, isWordSeparator c = false

theorem Unbroken.append {first second : List Char} (here : Unbroken first)
    (there : Unbroken second) : Unbroken (first ++ second) :=
  List.forall_mem_append.mpr ⟨here, there⟩

theorem separator_cuts_of_unbroken {name : List Char} (unbroken : Unbroken name) (index : Nat) :
    separatorCuts index name = [] := by
  induction name generalizing index with
  | nil => rfl
  | cons c rest induction =>
      obtain ⟨first, others⟩ := List.forall_mem_cons.mp unbroken
      rw [separatorCuts, first]
      exact induction others (index + 1)

theorem words_of_unbroken {name : List Char} (unbroken : Unbroken name) :
    words name = (cutAtBytes (letterCuts 0 name) 0 name).filter (!·.isEmpty) := by
  unfold words
  rw [separator_cuts_of_unbroken unbroken, cut_nowhere]
  exact congrArg _ (List.flatMap_singleton _ _)

theorem letter_cuts_bounds {chars : List Char} {index cut : Nat}
    (member : cut ∈ letterCuts index chars) : index < cut ∧ cut < index + chars.length := by
  induction chars generalizing index with
  | nil => cases member
  | cons c rest induction =>
      cases rest with
      | nil => cases member
      | cons d others =>
          have later (inside : cut ∈ letterCuts (index + 1) (d :: others)) :
              index < cut ∧ cut < index + (c :: d :: others).length := by
            have bounds := induction inside
            simp only [List.length_cons] at *
            omega
          unfold letterCuts at member
          dsimp only at member
          split at member
          · rcases List.mem_cons.mp member with rfl | inside
            · simp only [List.length_cons]
              omega
            · exact later inside
          · exact later member

theorem words_cons {c : Char} {rest : List Char} (unbroken : Unbroken (c :: rest)) :
    ∃ more others, words (c :: rest) = (c :: more) :: others := by
  rw [words_of_unbroken unbroken]
  cases cut : cutAtBytes (letterCuts 0 (c :: rest)) (0 + c.utf8Size) rest with
  | nil => exact absurd cut (cut_at_bytes_ne_nil _ _ _)
  | cons word others =>
      have first : (letterCuts 0 (c :: rest)).contains 0 = false := by
        rw [List.contains_eq_any_beq, List.any_eq_false]
        intro position member
        have := (letter_cuts_bounds member).1
        simp only [beq_iff_eq]
        omega
      rw [cut_at_bytes_cons _ _ _ _ cut, first]
      exact ⟨word, _, rfl⟩

end Unbroken

section Heads

/-- What is left of a name behind its first character is put behind the character in small letters. -/
theorem camel_case_cons {c : Char} {rest : List Char} (unbroken : Unbroken (c :: rest))
    (plain : c ≠ 'Σ') : ∃ tail, (camelCase (String.ofList (c :: rest))).toList =
      Text.lowerChar c ++ tail := by
  obtain ⟨more, others, cut⟩ := words_cons unbroken
  refine ⟨Text.lowerAfter [c] more ++ others.flatMap capitalisedWord, ?_⟩
  rw [camelCase, String.toList_ofList, cut]
  dsimp only
  rw [String.toList_ofList, Text.lowerChars, Text.lowerAfter, if_neg plain]
  exact List.append_assoc _ _ _

/-- A word that is capitalised keeps its second letter right behind the first one. -/
theorem camel_case_ha {rest : List Char} (unbroken : Unbroken ('H' :: 'a' :: rest)) :
    ∃ tail, (camelCase (String.ofList ('H' :: 'a' :: rest))).toList = 'h' :: 'a' :: tail := by
  have uncut : letterCuts 0 ('H' :: 'a' :: rest) = letterCuts 1 ('a' :: rest) := by
    have kept : (changesKind 'H' 'a' || endsAbbreviation 'H' 'a' rest) = false := by
      have small : Text.isUppercase 'a' = false := by decide
      unfold endsAbbreviation
      rw [small, Bool.and_false, Bool.false_and, Bool.or_false]
      decide
    rw [letterCuts, if_neg (ne_true_of_eq_false kept)]
  have later : ∀ position < 2, (letterCuts 0 ('H' :: 'a' :: rest)).contains position = false := by
    intro position early
    rw [uncut, List.contains_eq_any_beq, List.any_eq_false]
    intro cut member
    have := (letter_cuts_bounds member).1
    simp only [beq_iff_eq]
    omega
  have words : ∃ more others, words ('H' :: 'a' :: rest) = ('H' :: 'a' :: more) :: others := by
    rw [words_of_unbroken unbroken]
    cases cut : cutAtBytes (letterCuts 0 ('H' :: 'a' :: rest)) 2 rest with
    | nil => exact absurd cut (cut_at_bytes_ne_nil _ _ _)
    | cons word others =>
        have second := cut_at_bytes_cons _ 1 'a' rest cut
        rw [later 1 (by omega)] at second
        rw [cut_at_bytes_cons _ 0 'H' ('a' :: rest) second, later 0 (by omega)]
        exact ⟨word, _, rfl⟩
  obtain ⟨more, others, cut⟩ := words
  refine ⟨Text.lowerAfter ['a', 'H'] more ++ others.flatMap capitalisedWord, ?_⟩
  rw [camelCase, String.toList_ofList, cut]
  dsimp only
  rw [String.toList_ofList]
  rfl

end Heads

section Endings

/-- A word of its own at the end of a name: a capital and small letters. -/
def IsEnding (ending : List Char) : Prop :=
  ∃ capital small more, ending = capital :: small :: more ∧ Text.isAsciiUpper capital = true ∧
    ∀ c ∈ small :: more, Text.isAsciiLower c = true

instance (ending : List Char) : Decidable (IsEnding ending) :=
  match ending with
  | [] => .isFalse nofun
  | [_] => .isFalse nofun
  | capital :: small :: more =>
    decidable_of_iff (Text.isAsciiUpper capital = true ∧
      ∀ c ∈ small :: more, Text.isAsciiLower c = true)
      ⟨fun both => ⟨capital, small, more, rfl, both⟩, by rintro ⟨_, _, _, ⟨⟩, both⟩; exact both⟩

structure Capital (c : Char) : Prop where
  upper : Text.isUppercase c = true
  lower : Text.isLowercase c = false
  digit : Text.isAsciiDigit c = false
  cased : Text.isCased c = true
  counts : Text.isCaseIgnorable c = false
  stays : Text.upperChar c = [c]
  early : c.toNat < 0x80

structure Small (c : Char) : Prop where
  upper : Text.isUppercase c = false
  lower : Text.isLowercase c = true
  digit : Text.isAsciiDigit c = false
  stays : Text.asciiLower c = c
  early : c.toNat < 0x80

theorem capital_of_ascii {c : Char} (ascii : Text.isAsciiUpper c = true) : Capital c := by
  have all : ∀ index : Fin 26, let c := Char.ofNat (0x41 + index)
      (Text.isUppercase c = true ∧ Text.isLowercase c = false ∧ Text.isAsciiDigit c = false) ∧
      (Text.isCased c = true ∧ Text.isCaseIgnorable c = false) ∧ Text.upperChar c = [c] := by
    decide +kernel
  obtain ⟨large, small⟩ := Text.is_ascii_upper_iff.mp ascii
  have holds := all ⟨c.toNat - 0x41, by omega⟩
  have same : 0x41 + (c.toNat - 0x41) = c.toNat := by omega
  dsimp only at holds
  rw [same, Char.ofNat_toNat] at holds
  obtain ⟨⟨upper, lower, digit⟩, ⟨cased, counts⟩, stays⟩ := holds
  exact ⟨upper, lower, digit, cased, counts, stays, by omega⟩

theorem small_of_ascii {c : Char} (ascii : Text.isAsciiLower c = true) : Small c := by
  have all : ∀ index : Fin 26, let c := Char.ofNat (0x61 + index)
      (Text.isUppercase c = false ∧ Text.isLowercase c = true ∧ Text.isAsciiDigit c = false) ∧
      Text.asciiLower c = c := by
    decide
  obtain ⟨large, small⟩ := Text.is_ascii_lower_iff.mp ascii
  have holds := all ⟨c.toNat - 0x61, by omega⟩
  have same : 0x61 + (c.toNat - 0x61) = c.toNat := by omega
  dsimp only at holds
  rw [same, Char.ofNat_toNat] at holds
  obtain ⟨⟨upper, lower, digit⟩, stays⟩ := holds
  exact ⟨upper, lower, digit, stays, by omega⟩

theorem letter_cuts_small {chars : List Char} (small : ∀ c ∈ chars, Text.isAsciiLower c = true)
    (index : Nat) : letterCuts index chars = [] := by
  induction chars generalizing index with
  | nil => rfl
  | cons c rest induction =>
      obtain ⟨first, others⟩ := List.forall_mem_cons.mp small
      cases rest with
      | nil => rfl
      | cons d more =>
          have one := small_of_ascii first
          have two := small_of_ascii (others d List.mem_cons_self)
          rw [letterCuts, induction others]
          simp [changesKind, endsAbbreviation, one.upper, one.digit, two.upper, two.digit]

theorem letter_cuts_of_ending {ending : List Char} (ends : IsEnding ending) (index : Nat) :
    letterCuts index ending = [] := by
  obtain ⟨capital, small, more, rfl, upper, lower⟩ := ends
  have first := capital_of_ascii upper
  have second := small_of_ascii (lower small List.mem_cons_self)
  rw [letterCuts, letter_cuts_small lower]
  simp [changesKind, endsAbbreviation, first.lower, first.digit, second.upper, second.digit]

/-- The cuts in front of an ending are the same for all endings, and no cut is inside of it. -/
theorem letter_cuts_append (chars : List Char) (index : Nat) :
    ∃ cuts, (∀ cut ∈ cuts, cut ≤ index + chars.length) ∧
      ∀ ending, IsEnding ending → letterCuts index (chars ++ ending) = cuts := by
  induction chars generalizing index with
  | nil => exact ⟨[], List.forall_mem_nil _,
      fun ending ends => letter_cuts_of_ending ends index⟩
  | cons c rest induction =>
      obtain ⟨cuts, bounded, same⟩ := induction (index + 1)
      cases rest with
      | nil =>
          let ended := Text.isLowercase c || Text.isAsciiDigit c || Text.isUppercase c
          refine ⟨if ended then [index + 1] else [], ?_, ?_⟩
          · intro cut member
            split at member
            · exact Nat.le_of_eq (List.mem_singleton.mp member)
            · cases member
          · rintro _ ⟨capital, small, more, rfl, upper, lower⟩
            have first := capital_of_ascii upper
            have second := small_of_ascii (lower small List.mem_cons_self)
            have none := letter_cuts_of_ending ⟨capital, small, more, rfl, upper, lower⟩ (index + 1)
            rw [List.cons_append, List.nil_append, letterCuts, none]
            congr 1
            simp [ended, changesKind, endsAbbreviation, first.upper, first.lower, first.digit,
              second.lower]
      | cons d others =>
          let ended := changesKind c d || endsAbbreviation c d others
          refine ⟨if ended then (index + 1) :: cuts else cuts, ?_, ?_⟩
          · intro cut member
            have later (inside : cut ∈ cuts) := bounded cut inside
            simp only [List.length_cons] at *
            split at member
            · rcases List.mem_cons.mp member with rfl | inside
              · omega
              · have := later inside
                omega
            · have := later member
              omega
          · intro ending ends
            have here : endsAbbreviation c d (others ++ ending) = endsAbbreviation c d others := by
              cases others with
              | cons _ _ => rfl
              | nil =>
                  obtain ⟨capital, small, more, rfl, upper, lower⟩ := ends
                  simp [endsAbbreviation, (capital_of_ascii upper).lower]
            rw [List.cons_append, List.cons_append, letterCuts, ← List.cons_append, same ending ends,
              here]

theorem cut_beyond {cuts : List Nat} {offset : Nat} (beyond : ∀ cut ∈ cuts, cut < offset)
    (chars : List Char) : cutAtBytes cuts offset chars = [chars] := by
  have uncut : ∀ {position}, offset ≤ position → cuts.contains position = false := by
    intro position late
    rw [List.contains_eq_any_beq, List.any_eq_false]
    intro cut member
    have := beyond cut member
    simp only [beq_iff_eq]
    omega
  induction chars generalizing offset with
  | nil => rw [cutAtBytes, uncut (Nat.le_refl _)]; rfl
  | cons c rest induction =>
      have following : cutAtBytes cuts (offset + c.utf8Size) rest = [rest] := induction
        (fun cut member => Nat.lt_of_lt_of_le (beyond cut member) (Nat.le_add_right _ _))
        fun late => uncut (Nat.le_trans (Nat.le_add_right _ _) late)
      rw [cut_at_bytes_cons _ _ _ _ following, uncut (Nat.le_refl _)]
      rfl

/-- Cuts that are counted in characters are made in front of an ending, as every character has a byte
at least: the ending stays in one piece, which is the last one. -/
theorem cut_append (cuts : List Nat) (chars : List Char) (offset : Nat)
    (bounded : ∀ cut ∈ cuts, cut ≤ offset + chars.length) :
    ∃ front last, ∀ ending, ending ≠ [] →
      cutAtBytes cuts offset (chars ++ ending) = front ++ [last ++ ending] := by
  induction chars generalizing offset with
  | nil =>
      refine ⟨if cuts.contains offset then [[]] else [], [], fun ending given => ?_⟩
      cases ending with
      | nil => exact absurd rfl given
      | cons c rest =>
          have positive := c.utf8Size_pos
          have whole : cutAtBytes cuts (offset + c.utf8Size) rest = [rest] := cut_beyond (by
            intro cut member
            have := bounded cut member
            simp only [List.length_nil] at this
            omega) rest
          rw [List.nil_append, cut_at_bytes_cons _ _ _ _ whole]
          split <;> rfl
  | cons c rest induction =>
      have positive := c.utf8Size_pos
      obtain ⟨front, last, same⟩ := induction (offset + c.utf8Size) (by
        intro cut member
        have := bounded cut member
        simp only [List.length_cons] at this
        omega)
      let mark : List (List Char) := if cuts.contains offset then [[]] else []
      cases front with
      | nil =>
          refine ⟨mark, c :: last, fun ending given => ?_⟩
          rw [List.cons_append, cut_at_bytes_cons _ _ _ _ (same ending given)]
          dsimp only [mark]
          split <;> rfl
      | cons word words =>
          refine ⟨mark ++ (c :: word) :: words, last, fun ending given => ?_⟩
          rw [List.cons_append, cut_at_bytes_cons _ _ _ _ (same ending given)]
          dsimp only [mark]
          split <;> rfl

theorem starts_with_cased_append (chars : List Char) :
    ∃ cased, ∀ ending, IsEnding ending → Text.startsWithCased (chars ++ ending) = cased := by
  induction chars with
  | nil =>
      refine ⟨true, ?_⟩
      rintro _ ⟨capital, small, more, rfl, upper, _⟩
      have first := capital_of_ascii upper
      rw [List.nil_append, Text.startsWithCased, List.dropWhile_cons_of_neg (by simp [first.counts])]
      exact first.cased
  | cons c rest induction =>
      obtain ⟨cased, same⟩ := induction
      cases skipped : Text.isCaseIgnorable c with
      | true =>
          refine ⟨cased, fun ending ends => ?_⟩
          rw [List.cons_append, Text.startsWithCased, List.dropWhile_cons_of_pos skipped]
          exact same ending ends
      | false =>
          refine ⟨Text.isCased c, fun ending ends => ?_⟩
          rw [List.cons_append, Text.startsWithCased, List.dropWhile_cons_of_neg (by simp [skipped])]

theorem lower_after_ascii {chars : List Char} (ascii : ∀ c ∈ chars, c.toNat < 0x80)
    (before : List Char) : Text.lowerAfter before chars = chars.map Text.asciiLower := by
  induction chars generalizing before with
  | nil => rfl
  | cons c rest induction =>
      obtain ⟨first, others⟩ := List.forall_mem_cons.mp ascii
      have plain : c ≠ 'Σ' := by
        rintro rfl
        exact absurd first (by decide)
      rw [Text.lowerAfter, if_neg plain, Text.lowerChar, if_pos first, induction others]
      rfl

theorem IsEnding.ascii {ending : List Char} (ends : IsEnding ending) :
    ∀ c ∈ ending, c.toNat < 0x80 := by
  obtain ⟨capital, small, more, rfl, upper, lower⟩ := ends
  exact List.forall_mem_cons.mpr ⟨(capital_of_ascii upper).early,
    fun c member => (small_of_ascii (lower c member)).early⟩

theorem IsEnding.lower_tail {ending : List Char} (ends : IsEnding ending) :
    (ending.map Text.asciiLower).drop 1 = ending.drop 1 := by
  obtain ⟨capital, small, more, rfl, _, lower⟩ := ends
  exact (List.map_congr_left fun c member => (small_of_ascii (lower c member)).stays).trans
    (List.map_id _)

theorem lower_after_append (chars before : List Char) :
    ∃ stem, ∀ ending, IsEnding ending →
      Text.lowerAfter before (chars ++ ending) = stem ++ ending.map Text.asciiLower := by
  induction chars generalizing before with
  | nil => exact ⟨[], fun ending ends => lower_after_ascii ends.ascii before⟩
  | cons c rest induction =>
      obtain ⟨stem, same⟩ := induction (c :: before)
      obtain ⟨cased, alike⟩ := starts_with_cased_append rest
      let form := if c = 'Σ' then [if Text.startsWithCased before && !cased then 'ς' else 'σ']
        else Text.lowerChar c
      refine ⟨form ++ stem, fun ending ends => ?_⟩
      rw [List.cons_append, Text.lowerAfter, same ending ends, alike ending ends,
        List.append_assoc]

/-- A word with an ending is capitalised like the word, unless it is nothing but the ending. -/
theorem capitalised_word_append (word : List Char) :
    ∃ stem, ∃ capital : Bool, ∀ ending, IsEnding ending → capitalisedWord (word ++ ending) =
      stem ++ if capital then ending else ending.map Text.asciiLower := by
  cases word with
  | nil =>
      refine ⟨[], true, ?_⟩
      rintro _ ⟨capital, small, more, rfl, upper, lower⟩
      have kept : (small :: more).map Text.asciiLower = small :: more :=
        IsEnding.lower_tail ⟨capital, small, more, rfl, upper, lower⟩
      rw [List.nil_append, capitalisedWord, (capital_of_ascii upper).stays, Text.lowerChars,
        lower_after_ascii fun c member => (small_of_ascii (lower c member)).early, kept]
      rfl
  | cons c rest =>
      obtain ⟨stem, same⟩ := lower_after_append rest []
      refine ⟨Text.upperChar c ++ stem, false, fun ending ends => ?_⟩
      rw [List.cons_append, capitalisedWord, Text.lowerChars, same ending ends,
        List.append_assoc]
      rfl

/-- A name is written alike under every ending; the ending starts with a capital or a small letter,
but that does not depend on the ending either. -/
theorem camel_case_append {name : List Char} (unbroken : Unbroken name) :
    ∃ stem, ∃ capital : Bool, ∀ ending, IsEnding ending → Unbroken ending →
      (camelCase (String.ofList (name ++ ending))).toList =
        stem ++ if capital then ending else ending.map Text.asciiLower := by
  obtain ⟨cuts, bounded, uncut⟩ := letter_cuts_append name 0
  obtain ⟨front, last, cut⟩ := cut_append cuts name 0 bounded
  have whole : ∀ ending, IsEnding ending → Unbroken ending →
      words (name ++ ending) = front.filter (!·.isEmpty) ++ [last ++ ending] := by
    intro ending ends plain
    have given : ending ≠ [] := by
      obtain ⟨capital, small, more, rfl, _⟩ := ends
      exact List.cons_ne_nil _ _
    have kept : (!(last ++ ending).isEmpty) = true := by
      rw [Bool.not_eq_true', List.isEmpty_eq_false_iff]
      exact List.append_ne_nil_of_right_ne_nil _ given
    rw [words_of_unbroken (unbroken.append plain), uncut ending ends, cut ending given,
      List.filter_append, List.filter_cons, if_pos kept]
    rfl
  cases others : front.filter (!·.isEmpty) with
  | nil =>
      obtain ⟨stem, same⟩ := lower_after_append last []
      refine ⟨stem, false, fun ending ends plain => ?_⟩
      rw [camelCase, String.toList_ofList, whole ending ends plain, others]
      dsimp only [List.nil_append]
      rw [String.toList_ofList, List.flatMap_nil, List.append_nil]
      exact same ending ends
  | cons first middle =>
      obtain ⟨stem, capital, same⟩ := capitalised_word_append last
      refine ⟨Text.lowerChars first ++ middle.flatMap capitalisedWord ++ stem, capital,
        fun ending ends plain => ?_⟩
      rw [camelCase, String.toList_ofList, whole ending ends plain, others]
      dsimp only [List.cons_append]
      rw [String.toList_ofList, List.flatMap_append, List.flatMap_singleton, same ending ends]
      simp only [List.append_assoc]

end Endings

end ApiScaffold.Identifier

namespace ApiScaffold.Go

open Identifier (Unbroken IsEnding)

def localEndings : List String := ["Raw", "Value", "Parsed"]

theorem local_endings_end : ∀ ending ∈ localEndings,
    IsEnding ending.toList ∧ Unbroken ending.toList := by
  unfold Unbroken
  decide

/-- No keyword ends as one of these variables does. -/
theorem keywords_end_otherwise : ∀ word ∈ keywords, ∀ ending ∈ localEndings,
    ¬ ending.toList.drop 1 <:+ word.toList := by decide

theorem local_endings_change : ∀ ending ∈ localEndings,
    ending.toList.map Text.asciiLower ≠ ending.toList := by decide

section

variable {name other : String} (unbroken : Unbroken name.toList)

include unbroken

/-- A variable with an ending that no keyword has is written in camel case, and only the first letter
of the ending may change. -/
theorem variable_name_camel {ending : String} (ends : IsEnding ending.toList)
    (plain : Unbroken ending.toList)
    (apart : ∀ word ∈ keywords, ¬ ending.toList.drop 1 <:+ word.toList) :
    variableName (name ++ ending) = Identifier.camelCase (name ++ ending) ∧
      ending.toList.drop 1 <:+ (variableName (name ++ ending)).toList := by
  obtain ⟨stem, capital, same⟩ := Identifier.camel_case_append unbroken
  have camel : (Identifier.camelCase (name ++ ending)).toList =
      stem ++ if capital then ending.toList else ending.toList.map Text.asciiLower := by
    rw [← same ending.toList ends plain, ← String.toList_append, String.ofList_toList]
  have tail : ending.toList.drop 1 <:+
      (if capital then ending.toList else ending.toList.map Text.asciiLower) := by
    split
    · exact List.drop_suffix 1 _
    · rw [← ends.lower_tail]
      exact List.drop_suffix 1 _
  have within : ending.toList.drop 1 <:+ (Identifier.camelCase (name ++ ending)).toList := by
    rw [camel]
    exact tail.trans (List.suffix_append _ _)
  have free : isKeyword (Identifier.camelCase (name ++ ending)) = false := by
    rw [Bool.eq_false_iff]
    intro keyword
    exact apart _ (List.contains_iff_mem.mp keyword) within
  have written : variableName (name ++ ending) = Identifier.camelCase (name ++ ending) := by
    rw [variableName, avoidKeyword, free]
    rfl
  exact ⟨written, written ▸ within⟩

theorem variable_name_append : ∃ stem, ∃ capital : Bool, ∀ ending ∈ localEndings,
    (variableName (name ++ ending)).toList =
      stem ++ if capital then ending.toList else ending.toList.map Text.asciiLower := by
  obtain ⟨stem, capital, same⟩ := Identifier.camel_case_append unbroken
  refine ⟨stem, capital, fun ending listed => ?_⟩
  obtain ⟨ends, plain⟩ := local_endings_end ending listed
  rw [(variable_name_camel unbroken ends plain (keywords_end_otherwise · · ending listed)).1,
    ← same ending.toList ends plain, ← String.toList_append, String.ofList_toList]

theorem variable_name_last {ending : String} (listed : ending ∈ localEndings) :
    (variableName (name ++ ending)).toList.getLast? = ending.toList.getLast? := by
  have lasts : ∀ ending ∈ localEndings, ending.toList.getLast?.isSome ∧
      (ending.toList.map Text.asciiLower).getLast? = ending.toList.getLast? := by decide
  obtain ⟨stem, capital, same⟩ := variable_name_append unbroken
  obtain ⟨given, lowered⟩ := lasts ending listed
  obtain ⟨last, own⟩ := Option.isSome_iff_exists.mp given
  rw [own] at lowered
  rw [same ending listed, List.getLast?_append, own]
  split
  · rw [own]
    rfl
  · rw [lowered]
    rfl

/-- Two names share all of these variables or none. -/
theorem variables_shared (others : Unbroken other.toList) {first second : String}
    (here : first ∈ localEndings) (there : second ∈ localEndings)
    (shared : variableName (name ++ first) = variableName (other ++ first)) :
    variableName (name ++ second) = variableName (other ++ second) := by
  obtain ⟨stem, capital, same⟩ := variable_name_append unbroken
  obtain ⟨base, upper, alike⟩ := variable_name_append others
  have equal := congrArg String.toList shared
  rw [same first here, alike first here] at equal
  have lengths : (if capital then first.toList else first.toList.map Text.asciiLower).length =
      (if upper then first.toList else first.toList.map Text.asciiLower).length := by
    split <;> split <;> simp
  obtain ⟨stems, endings⟩ := List.append_inj' equal lengths
  have capitals : capital = upper := by
    have differs := local_endings_change first here
    cases capital <;> cases upper
    · rfl
    · exact absurd endings differs
    · exact absurd endings.symm differs
    · rfl
  apply String.toList_inj.mp
  rw [same second there, alike second there, stems, capitals]

end

end ApiScaffold.Go
