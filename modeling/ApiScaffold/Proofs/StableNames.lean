import ApiScaffold.Proofs.CleanNames

/-!
Names that are made twice. An identifier is in one piece, starts with a character that is its own
capital, and has its ending in capitals already, so making one out of it gives it back. The capitals
are read off the tables: what a character becomes is never a character that the tables change.
-/

namespace ApiScaffold.Text

/-- Numbers as the bits of one number, in which whole sets of them are compared at once. -/
def bitsOf (numbers : List Nat) : Nat :=
  numbers.foldr (fun number bits => 1 <<< number ||| bits) 0

theorem test_bit_bits_of {numbers : List Nat} {number : Nat} :
    (bitsOf numbers).testBit number = true ↔ number ∈ numbers := by
  induction numbers with
  | nil => simp [bitsOf]
  | cons first rest induction =>
      have step : bitsOf (first :: rest) = 1 <<< first ||| bitsOf rest := rfl
      rw [step, Nat.testBit_or, Bool.or_eq_true, induction, Nat.one_shiftLeft, Nat.testBit_two_pow,
        decide_eq_true_iff, List.mem_cons, eq_comm]

theorem disjoint_of_bits {first second : List Nat} (apart : bitsOf first &&& bitsOf second = 0) :
    ∀ number ∈ first, number ∉ second := by
  intro number here there
  have both := congrArg (Nat.testBit · number) apart
  simp [Nat.testBit_and, test_bit_bits_of.mpr here, test_bit_bits_of.mpr there] at both

def CodeRun.codesFrom (run : CodeRun) (start : Nat) : List Nat :=
  (List.range ((run.last - run.first) / run.stride + 1)).map fun step => start + step * run.stride

theorem CodeRun.map_code_cases {run : CodeRun} {code image : Nat}
    (mapped : run.map? code = some image) :
    code ∈ run.codesFrom run.first ∧ image ∈ run.codesFrom run.image := by
  unfold map? at mapped
  split at mapped
  case isFalse => cases mapped
  case isTrue inside =>
    simp only [Bool.and_eq_true, decide_eq_true_eq, beq_iff_eq] at inside
    obtain ⟨⟨above, below⟩, whole⟩ := inside
    cases mapped
    have steps : (code - run.first) / run.stride * run.stride = code - run.first :=
      Nat.div_mul_cancel (Nat.dvd_of_mod_eq_zero whole)
    have few : (code - run.first) / run.stride < (run.last - run.first) / run.stride + 1 :=
      Nat.lt_succ_of_le (Nat.div_le_div_right (Nat.sub_le_sub_right below _))
    have listed (start : Nat) : start + (code - run.first) ∈ run.codesFrom start :=
      List.mem_map.mpr ⟨_, List.mem_range.mpr few, by rw [steps]⟩
    have own := listed run.first
    rw [Nat.add_sub_cancel' above] at own
    exact ⟨own, listed run.image⟩

def upperSources : List Nat :=
  (CaseTable.upperRuns.flatMap fun run => run.codesFrom run.first) ++
    CaseTable.upperExpansions.map (·.1)

def upperHeads : List Nat :=
  (CaseTable.upperRuns.flatMap fun run => run.codesFrom run.image) ++
    CaseTable.upperExpansions.filterMap (·.2.head?)

theorem upper_heads_settled : ∀ code ∈ upperHeads, code ∉ upperSources :=
  disjoint_of_bits (by decide +kernel)

theorem upper_char_other {c : Char} (outside : 0x80 ≤ c.toNat) (other : c.toNat ∉ upperSources) :
    upperChar c = [c] := by
  have unexpanded : CaseTable.upperExpansions.lookup c.toNat = none := by
    apply Option.eq_none_iff_forall_ne_some.mpr
    intro codes found
    obtain ⟨before, after, table, _⟩ := List.lookup_eq_some_iff.mp found
    apply other
    apply List.mem_append_right
    rw [table, List.map_append]
    exact List.mem_append_right _ List.mem_cons_self
  have unmapped : mapCode? CaseTable.upperRuns c.toNat = none := by
    apply Option.eq_none_iff_forall_ne_some.mpr
    intro image found
    obtain ⟨run, member, mapped⟩ := List.exists_of_findSome?_eq_some found
    apply other
    apply List.mem_append_left
    exact List.mem_flatMap.mpr ⟨run, member, (CodeRun.map_code_cases mapped).1⟩
  unfold upperChar
  rw [if_neg (Nat.not_lt.mpr outside), unexpanded, unmapped]

/-- A character outside of the first 128 becomes itself, or its capitals start with a known one. -/
theorem upper_char_head {c d : Char} {rest : List Char} (outside : 0x80 ≤ c.toNat)
    (forms : upperChar c = d :: rest) :
    upperChar d = [d] ∨ ∃ code ∈ upperHeads, d = Char.ofNat code := by
  have whole := forms
  unfold upperChar at forms
  rw [if_neg (Nat.not_lt.mpr outside)] at forms
  split at forms
  case h_1 codes found =>
    obtain ⟨before, after, table, _⟩ := List.lookup_eq_some_iff.mp found
    obtain ⟨code, others, rfl, rfl, _⟩ := List.map_eq_cons_iff.mp forms
    refine .inr ⟨code, List.mem_append_right _ ?_, rfl⟩
    rw [table]
    exact List.mem_filterMap.mpr
      ⟨(c.toNat, code :: others), List.mem_append_right _ List.mem_cons_self, rfl⟩
  case h_2 =>
    split at forms
    case h_1 code found =>
      cases forms
      obtain ⟨run, member, mapped⟩ := List.exists_of_findSome?_eq_some found
      refine .inr ⟨code, List.mem_append_left _ ?_, rfl⟩
      exact List.mem_flatMap.mpr ⟨run, member, (CodeRun.map_code_cases mapped).2⟩
    case h_2 =>
      cases forms
      exact .inl whole

theorem of_nat_cases (code : Nat) : (Char.ofNat code).toNat = code ∨ (Char.ofNat code).toNat = 0 := by
  by_cases valid : code.isValidChar
  · exact .inl (to_nat_of_nat valid)
  · right
    rw [Char.ofNat, dif_neg valid]
    rfl

/-- The capitals of a character start with one that is its own capital. -/
theorem upper_char_settled {c d : Char} {rest : List Char} (forms : upperChar c = d :: rest) :
    upperChar d = [d] := by
  have kinds := mem_upper_char (forms ▸ List.mem_cons_self : d ∈ upperChar c)
  by_cases early : d.toNat < 0x80
  · have large : isAsciiLower d = false := by
      rcases kinds with late | capital | ⟨rfl, other⟩
      · omega
      · rw [Bool.eq_false_iff]
        intro small
        have := is_ascii_lower_iff.mp small
        have := is_ascii_upper_iff.mp capital
        omega
      · exact other
    unfold upperChar
    rw [if_pos early, large]
    rfl
  · have outside : 0x80 ≤ c.toNat := by
      rw [← Nat.not_lt]
      intro ascii
      rw [upperChar, if_pos ascii] at forms
      cases forms
      apply early
      split
      · rcases of_nat_cases (c.toNat - 32) with same | zero <;> omega
      · exact ascii
    rcases upper_char_head outside forms with settled | ⟨code, listed, rfl⟩
    · exact settled
    · have same := (of_nat_cases code).resolve_right (by omega)
      apply upper_char_other (by omega)
      rw [same]
      exact upper_heads_settled code listed

theorem split_where_ended {separates : Char → Bool} {mark : Char}
    (separator : separates mark = true) (chars : List Char) :
    splitWhere separates (chars ++ [mark]) = splitWhere separates chars ++ [[]] := by
  induction chars with
  | nil => simp [splitWhere, separator]
  | cons c rest induction =>
      rw [List.cons_append, splitWhere, splitWhere, induction]
      split
      · rfl
      · cases cut : splitWhere separates rest with
        | nil => exact absurd cut (splitWhere_ne_nil separates rest)
        | cons piece others => rfl

end ApiScaffold.Text

namespace ApiScaffold.Identifier

def EndsLike (ending name : List Char) : Prop :=
  ending.map Text.asciiLower <:+ name.map Text.asciiLower

variable {ending name : List Char}

theorem capitalise_ending_cases (ending name : List Char) :
    (EndsLike ending name ∧ capitaliseEnding ending name =
      name.take (name.length - ending.length) ++ ending) ∨
    (¬ EndsLike ending name ∧ capitaliseEnding ending name = name) := by
  have asked : Text.eqIgnoringAsciiCase
      (name.drop (name.take (name.length - ending.length)).length) ending = true ↔
      EndsLike ending name := by
    unfold EndsLike Text.eqIgnoringAsciiCase
    rw [List.suffix_iff_eq_drop, beq_iff_eq, List.length_take_of_le (Nat.sub_le _ _),
      List.length_map, List.length_map, List.map_drop, eq_comm]
  unfold capitaliseEnding
  dsimp only
  split
  case isTrue same => exact .inl ⟨asked.mp same, rfl⟩
  case isFalse other => exact .inr ⟨mt asked.mpr other, rfl⟩

/-- An ending that is in capitals stays. -/
theorem capitalise_ending_of_suffix (capital : ending <:+ name) :
    capitaliseEnding ending name = name := by
  obtain ⟨stem, rfl⟩ := capital
  rcases capitalise_ending_cases ending (stem ++ ending) with ⟨_, made⟩ | ⟨_, kept⟩
  · rw [made, List.length_append, Nat.add_sub_cancel, List.take_left]
  · exact kept

/-- An ending is only put in place of one that is the same up to case. -/
theorem capitalise_ending_folds (ending name : List Char) :
    (capitaliseEnding ending name).map Text.asciiLower = name.map Text.asciiLower := by
  unfold capitaliseEnding
  dsimp only
  split
  · rename_i same
    rw [List.length_take, Nat.min_eq_left (Nat.sub_le _ _)] at same
    rw [List.map_append, ← eq_of_beq same, ← List.map_append, List.take_append_drop]
  · rfl

theorem ends_like_capitalise_ending (other : List Char) :
    EndsLike ending (capitaliseEnding other name) ↔ EndsLike ending name := by
  unfold EndsLike
  rw [capitalise_ending_folds]

theorem capitalise_ending_idem (ending name : List Char) :
    capitaliseEnding ending (capitaliseEnding ending name) = capitaliseEnding ending name := by
  rcases capitalise_ending_cases ending name with ⟨_, made⟩ | ⟨_, kept⟩
  · rw [made]
    exact capitalise_ending_of_suffix (List.suffix_append _ _)
  · rw [kept, kept]

/-- What does not start as the ending does can be put in front. -/
theorem capitalise_ending_cons {c : Char}
    (apart : (ending.map Text.asciiLower).head? ≠ some (Text.asciiLower c))
    (settled : capitaliseEnding ending name = name) :
    capitaliseEnding ending (c :: name) = c :: name := by
  rcases capitalise_ending_cases ending (c :: name) with ⟨ends, _⟩ | ⟨_, kept⟩
  · rcases List.suffix_cons_iff.mp ends with whole | inside
    · rw [whole] at apart
      exact absurd rfl apart
    · rcases capitalise_ending_cases ending name with ⟨_, made⟩ | ⟨other, _⟩
      · apply capitalise_ending_of_suffix
        rw [← settled, made]
        exact (List.suffix_append _ _).trans (List.suffix_cons _ _)
      · exact absurd inside other
  · exact kept

/-- The shorter ending is the end of the longer one, so it does not change what that one has made. -/
theorem normalise_uuid (name : List Char) :
    capitaliseEnding "UUID".toList (normaliseChars name) = normaliseChars name := by
  unfold normaliseChars
  rcases capitalise_ending_cases "UUID".toList (joinSegments name) with ⟨_, made⟩ | ⟨other, kept⟩
  · have inner : "ID".toList <:+ "UUID".toList := by decide
    have short : capitaliseEnding "ID".toList (capitaliseEnding "UUID".toList (joinSegments name)) =
        capitaliseEnding "UUID".toList (joinSegments name) := by
      rw [made]
      exact capitalise_ending_of_suffix (inner.trans (List.suffix_append _ _))
    rw [short, capitalise_ending_idem]
  · rw [kept]
    rcases capitalise_ending_cases "UUID".toList (capitaliseEnding "ID".toList (joinSegments name))
      with ⟨long, _⟩ | ⟨_, same⟩
    · exact absurd ((ends_like_capitalise_ending _).mp long) other
    · exact same

structure Settled (name : List Char) : Prop where
  clean : CleanChars name
  capital : Starts (fun c => Text.upperChar c = [c]) name
  uuid : capitaliseEnding "UUID".toList name = name
  id : capitaliseEnding "ID".toList name = name

theorem Settled.normalise_chars (settled : Settled name) : normaliseChars name = name := by
  have whole : joinSegments name = name := by
    unfold joinSegments
    rw [Text.splitWhere_unbroken settled.clean, List.flatMap_singleton]
    cases name with
    | nil => rfl
    | cons c rest => rw [Text.capitalise, settled.capital c rest rfl, List.singleton_append]
  unfold normaliseChars
  rw [whole, settled.uuid, settled.id]

theorem normalise_settled (name : List Char) : Settled (normaliseChars name) where
  clean := normalise_chars_clean name
  capital := by
    refine Starts.normalise_chars ?_ (by decide) (by decide) name
    intro chars first rest same
    cases chars with
    | nil => cases same
    | cons c others =>
        cases forms : Text.upperChar c with
        | nil => exact absurd forms (Text.upper_char_ne_nil c)
        | cons head tail =>
            rw [Text.capitalise, forms] at same
            cases same
            exact Text.upper_char_settled forms
  uuid := normalise_uuid name
  id := capitalise_ending_idem _ _

theorem Settled.cons_x (settled : Settled name) : Settled ('X' :: name) where
  clean := List.forall_mem_cons.mpr ⟨by decide, settled.clean⟩
  capital := by
    rintro _ _ ⟨⟩
    decide
  uuid := capitalise_ending_cons (by decide) settled.uuid
  id := capitalise_ending_cons (by decide) settled.id

theorem normalise_idem (name : String) : normalise (normalise name) = normalise name := by
  unfold normalise
  rw [String.toList_ofList, (normalise_settled name.toList).normalise_chars]

/-- A letter stands in front of an identifier just if that starts with a digit. -/
theorem exported_cases (name : String) :
    (startsWithDigit (normalise name) = true ∧ exported name = "X" ++ normalise name) ∨
    (startsWithDigit (normalise name) = false ∧ exported name = normalise name) := by
  unfold exported
  cases digit : startsWithDigit (normalise name) with
  | true => exact .inl ⟨rfl, if_pos digit⟩
  | false => exact .inr ⟨rfl, if_neg (Bool.eq_false_iff.mp digit)⟩

theorem exported_settled (name : String) : Settled (exported name).toList := by
  have plain : Settled (normalise name).toList := by
    rw [normalise, String.toList_ofList]
    exact normalise_settled name.toList
  rcases exported_cases name with ⟨_, same⟩ | ⟨_, same⟩
  · rw [same, String.toList_append]
    exact plain.cons_x
  · rw [same]
    exact plain

theorem exported_undigited (name : String) : startsWithDigit (exported name) = false := by
  rcases exported_cases name with ⟨_, same⟩ | ⟨letter, same⟩
  · have x : "X".toList = ['X'] := by decide
    rw [same, startsWithDigit, String.toList_append, x, List.singleton_append, List.head?_cons]
    rfl
  · rw [same, letter]

theorem exported_idem (name : String) : exported (exported name) = exported name := by
  have settled : normalise (exported name) = exported name := by
    rw [normalise, (exported_settled name).normalise_chars, String.ofList_toList]
  rcases exported_cases (exported name) with ⟨digit, _⟩ | ⟨_, same⟩
  · rw [settled, exported_undigited] at digit
    cases digit
  · rw [same, settled]

/-- A slash at the end of a path does not count. -/
theorem of_operation_slash (path method : String) :
    ofOperation (path ++ "/") method = ofOperation path method := by
  have segments (name : List Char) : normaliseChars (name ++ ['-']) = normaliseChars name := by
    unfold normaliseChars joinSegments
    rw [Text.split_where_ended (by decide), List.flatMap_append, List.flatMap_singleton,
      Text.capitalise, List.append_nil]
  have replaced : (Text.replaceChar '/' "-" (Text.lower method ++ (path ++ "/"))).toList =
      (Text.replaceChar '/' "-" (Text.lower method ++ path)).toList ++ ['-'] := by
    simp [Text.replaceChar, String.toList_append]
  unfold ofOperation normalise
  rw [replaced, segments]

/-- Names stay as they are when they are made again: an identifier and an exported name are their own,
no separator is left in one, and a slash at the end of a path makes no other name of an operation. -/
theorem names_stable (name path method : String) :
    normalise (normalise name) = normalise name ∧ exported (exported name) = exported name ∧
      (∀ c ∈ (normalise name).toList, isSeparator c = false) ∧
      ofOperation (path ++ "/") method = ofOperation path method :=
  ⟨normalise_idem name, exported_idem name, normalise_clean name, of_operation_slash path method⟩

/-- A capital may take two characters, and an ending may take the whole name. -/
example : normalise "ŉ-uuId" = "ʼNUUID" ∧ normalise "ʼNUUID" = "ʼNUUID" := by decide +kernel

end ApiScaffold.Identifier
